/-
What is said of a status (`services/ServerMessagesService.js`, the emits of `message.status`).

A status is written and then emitted, and the emit does not ask what the writing came to. So a
status is emitted that the store refused: a frame of the node that comes with the ack of a message
has `sent` emitted after `delivered`, for a row that stays `delivered` (`sent_after_delivered`).

If every write is accepted, and no row changes between the write of its status and the emit, what
is emitted is what is stored, whatever the order in which sends, acks and frames go on
(`run_honest`).
-/
import RezChat.Delivery.Turns

set_option autoImplicit false

namespace RezChat.Delivery

open Service Note List

open Inbox (trim)
open Messages (ChatThread Collation MessageStatus StatusCall StatusWrite Store
  canTransitionStatus delivered_final)

/-! ## The law -/

/-- `delivered` was emitted for a row, and since then the row was changed by status writes
only. -/
def DeliveredSince (threadId messageId : String) : List Note → Prop
  | [] => False
  | .emitted e _ _ :: older =>
    (e.threadId = threadId ∧ e.messageId = messageId ∧ e.status = .delivered) ∨
      DeliveredSince threadId messageId older
  | .renewed thread message :: older =>
    ¬ (thread = threadId ∧ message = messageId) ∧ DeliveredSince threadId messageId older
  | .deposited _ _ _ :: older => DeliveredSince threadId messageId older
  | .failed _ _ :: older => DeliveredSince threadId messageId older

/-- No row is `sent` after it was `delivered`. -/
def NoRelapse : List Note → Prop
  | [] => True
  | .emitted e _ _ :: older =>
    (e.status = .sent → ¬ DeliveredSince e.threadId e.messageId older) ∧ NoRelapse older
  | .renewed _ _ :: older => NoRelapse older
  | .deposited _ _ _ :: older => NoRelapse older
  | .failed _ _ :: older => NoRelapse older

/-- Every status that was emitted had been accepted by the store, and was the status of its
row. -/
structure EmitsStored {c : Collation} (w : Service c) : Prop where
  emitted : ∀ e accepted stored, emitted e accepted stored ∈ w.history →
    accepted = true ∧ stored = some e.status
  noRelapse : NoRelapse w.history

/-! ## The condition -/

section

variable {c : Collation}

/-- The status that a step writes, with what its awaiting comes to. -/
def Service.writes (w : Service c) : Event → Option (Response × StatusCall)
  | .advance i response =>
    (w.ops.get? i).bind fun
      | .settling call _ => some (response, call)
      | _ => none
  | _ => none

/-- The rows whose status was written and is not yet emitted. -/
def Service.announced (w : Service c) : List (String × String) :=
  w.ops.values.filterMap Phase.announces

/-- A write that is accepted, if the step writes a status at all, and no change to a row whose
status is still to be emitted. -/
def Undisturbed (w : Service c) (e : Event) : Prop :=
  (∀ write ∈ w.writes e, write.1 = .ok ∧ w.store.Takes write.2) ∧
    ∀ k ∈ w.announced, (w.step e).store.statusAt k.1 k.2 = w.store.statusAt k.1 k.2

instance (w : Service c) (e : Event) : Decidable (Undisturbed w e) := by
  unfold Undisturbed
  infer_instance

end

/-! ## The history -/

section History

variable {status status' : String → String → Option MessageStatus} {history : List Note}
  {threadId messageId : String}

theorem deliveredSince_renewed (keys : List (String × String)) :
    DeliveredSince threadId messageId (keys.map (fun k => renewed k.1 k.2) ++ history) ↔
      (threadId, messageId) ∉ keys ∧ DeliveredSince threadId messageId history := by
  induction keys with
  | nil => simp
  | cons k keys ih =>
    rw [map_cons, cons_append, DeliveredSince, ih, mem_cons, not_or, and_assoc]
    have hkey : ¬ (k.1 = threadId ∧ k.2 = messageId) ↔ (threadId, messageId) ≠ k := by
      rw [not_iff_not]
      exact ⟨fun h => Prod.ext h.1.symm h.2.symm, fun h => by rw [← h]; exact ⟨rfl, rfl⟩⟩
    rw [hkey]

theorem noRelapse_renewed (keys : List (String × String)) (h : NoRelapse history) :
    NoRelapse (keys.map (fun k => renewed k.1 k.2) ++ history) := by
  induction keys with
  | nil => exact h
  | cons k keys ih => exact ih

/-- Notes of failures say nothing of a row. -/
theorem deliveredSince_failed (failures : List (Nat × Failure)) :
    DeliveredSince threadId messageId (failures.map (fun f => failed f.1 f.2) ++ history) ↔
      DeliveredSince threadId messageId history := by
  induction failures with
  | nil => exact .rfl
  | cons f failures ih => exact ih

theorem noRelapse_failed (failures : List (Nat × Failure)) (h : NoRelapse history) :
    NoRelapse (failures.map (fun f => failed f.1 f.2) ++ history) := by
  induction failures with
  | nil => exact h
  | cons f failures ih => exact ih

/-- What is emitted was stored, and what was emitted as `delivered` still is. -/
structure Recorded (status : String → String → Option MessageStatus) (history : List Note) :
    Prop where
  emitted : ∀ e accepted stored, emitted e accepted stored ∈ history →
    accepted = true ∧ stored = some e.status
  delivered : ∀ threadId messageId, DeliveredSince threadId messageId history →
    status threadId messageId = some .delivered
  noRelapse : NoRelapse history

section

variable (h : Recorded status history)
include h

theorem Recorded.congr
    (hstatus : ∀ threadId messageId, status' threadId messageId = status threadId messageId) :
    Recorded status' history :=
  ⟨h.emitted, fun t m hsince => (hstatus t m).trans (h.delivered t m hsince), h.noRelapse⟩

theorem Recorded.failed (failures : List (Nat × Failure)) :
    Recorded status (failures.map (fun f => failed f.1 f.2) ++ history) := by
  refine ⟨fun e accepted stored hmem => ?_, fun t m hsince => ?_, noRelapse_failed _ h.noRelapse⟩
  · rcases mem_append.1 hmem with hfailed | hmem
    · obtain ⟨f, -, hf⟩ := mem_map.1 hfailed
      exact Note.noConfusion hf
    · exact h.emitted e accepted stored hmem
  · exact h.delivered t m ((deliveredSince_failed failures).1 hsince)

/-- Rows whose status changes otherwise are noted. -/
theorem Recorded.renewed {keys : List (String × String)}
    (hkeys : ∀ threadId messageId, status threadId messageId ≠ status' threadId messageId →
      (threadId, messageId) ∈ keys) :
    Recorded status' (keys.map (fun k => renewed k.1 k.2) ++ history) := by
  refine ⟨fun e accepted stored hmem => ?_, fun t m hsince => ?_, noRelapse_renewed _ h.noRelapse⟩
  · rcases mem_append.1 hmem with hrenewed | hmem
    · obtain ⟨k, -, hk⟩ := mem_map.1 hrenewed
      exact Note.noConfusion hk
    · exact h.emitted e accepted stored hmem
  · obtain ⟨hnot, hsince⟩ := (deliveredSince_renewed keys).1 hsince
    have hsame : status t m = status' t m := by
      by_contra hne
      exact hnot (hkeys t m hne)
    rw [← hsame]
    exact h.delivered t m hsince

theorem Recorded.deposited (i : Nat) (threadId messageId : String) :
    Recorded status (.deposited i threadId messageId :: history) := by
  refine ⟨fun e accepted stored hmem => ?_, h.delivered, h.noRelapse⟩
  rcases mem_cons.1 hmem with hd | hmem
  · exact Note.noConfusion hd
  · exact h.emitted e accepted stored hmem

/-- A status that the row has is emitted. -/
theorem Recorded.emit {e : StatusEvent}
    (hstatus : status e.threadId e.messageId = some e.status) :
    Recorded status (.emitted e true (status e.threadId e.messageId) :: history) := by
  refine ⟨fun e' accepted stored hmem => ?_, fun t m hsince => ?_, ?_, h.noRelapse⟩
  · rcases mem_cons.1 hmem with hsame | hmem
    · obtain ⟨rfl, rfl, rfl⟩ := emitted.inj hsame
      exact ⟨rfl, hstatus⟩
    · exact h.emitted e' accepted stored hmem
  · rcases hsince with ⟨rfl, rfl, hdelivered⟩ | hsince
    · rw [hstatus, hdelivered]
    · exact h.delivered t m hsince
  · -- the row of a `sent` that is emitted is not `delivered`
    intro hsent hsince
    have hdelivered := h.delivered _ _ hsince
    rw [hstatus, hsent] at hdelivered
    exact absurd hdelivered (by decide)

/-- A status write that is allowed leaves a `delivered` row as it is. -/
theorem Recorded.write {thread message : String}
    {current next : MessageStatus} (hcurrent : status thread message = some current)
    (hstep : canTransitionStatus current next = true)
    (hstatus : ∀ threadId messageId, status' threadId messageId =
      if threadId = thread ∧ messageId = message then some next else status threadId messageId) :
    Recorded status' history := by
  refine ⟨h.emitted, fun t m hsince => ?_, h.noRelapse⟩
  have hdelivered := h.delivered t m hsince
  rw [hstatus t m]
  by_cases hsame : t = thread ∧ m = message
  · rw [if_pos hsame]
    rw [hsame.1, hsame.2, hcurrent, Option.some_inj] at hdelivered
    rw [hdelivered] at hstep
    rw [delivered_final hstep]
  · rw [if_neg hsame]
    exact hdelivered

end

end History

/-! ## Runs -/

section Runs

variable {c : Collation} {w w' : Service c} {i : Nat} {p : Phase}

/-- The statuses that were written are those of their rows. -/
structure Truthful (w : Service c) : Prop where
  settled : ∀ i call write next, w.ops.get? i = some (.settled call write next) →
    write.accepted = true ∧
      w.store.statusAt (trim call.threadId) (trim call.messageId) = some call.status
  recorded : Recorded w.store.statusAt w.history

theorem mem_announced {call : StatusCall} {write : StatusWrite} {next : Next}
    (h : w.ops.get? i = some (.settled call write next)) :
    (trim call.threadId, trim call.messageId) ∈ w.announced :=
  mem_filterMap.2 ⟨_, OrdMap.mem_values_iff.2 ⟨i, h⟩, rfl⟩

/-- A procedure comes to a phase, and the rows of the others keep their statuses. -/
theorem Truthful.put (h : Truthful w) {r : Phase × Service c} (hops : r.2.ops = w.ops)
    (hspared : ∀ k ∈ w.announced, r.2.store.statusAt k.1 k.2 = w.store.statusAt k.1 k.2)
    (hself : ∀ call write next, r.1 = .settled call write next → write.accepted = true ∧
      r.2.store.statusAt (trim call.threadId) (trim call.messageId) = some call.status)
    (hrecorded : Recorded r.2.store.statusAt r.2.history) : Truthful (put i r) := by
  refine ⟨fun j call write next hj => ?_, hrecorded⟩
  have hget : (r.2.ops.set i r.1).get? j = some (.settled call write next) := hj
  rw [hops, OrdMap.get?_set] at hget
  by_cases hij : j = i
  · rw [if_pos hij, Option.some_inj] at hget
    exact hself call write next hget
  · rw [if_neg hij] at hget
    obtain ⟨haccepted, hstatus⟩ := h.settled j call write next hget
    exact ⟨haccepted, (hspared _ (mem_announced hget)).trans hstatus⟩

theorem not_settled (h : p.announces = none) (call : StatusCall) (write : StatusWrite)
    (next : Next) : p ≠ .settled call write next := by
  rintro rfl
  exact absurd h (by simp [Phase.announces])

section

variable (h : Recorded w.store.statusAt w.history)
include h

theorem Recorded.same (hsame : w.Same w') :
    Recorded w'.store.statusAt w'.history := by
  rw [hsame.history]
  exact h.congr hsame.statusAt

theorem Recorded.fails (i : Nat) (how : Failure) :
    Recorded (w.note (.failed i how)).store.statusAt (w.note (.failed i how)).history :=
  h.failed [(i, how)]

theorem Recorded.rewrite (store : Store c) :
    Recorded (w.rewrite store).store.statusAt (w.rewrite store).history :=
  h.renewed fun _ _ hne => Store.mem_renewed hne

theorem Recorded.deposit (i : Nat) (call : SendCall) :
    Recorded (w.deposit i call).store.statusAt (w.deposit i call).history := by
  unfold Service.deposit
  split
  · exact h
  · exact (h.rewrite _).deposited i _ _

end

theorem ops_deposit (i : Nat) (call : SendCall) (w : Service c) :
    (w.deposit i call).ops = w.ops := by
  unfold deposit
  split <;> rfl

/-- A turn of a procedure. -/
theorem Truthful.turn (h : Truthful w) {r : Phase × Service c} (hget : w.ops.get? i = some p)
    (hturn : Turn i p w r)
    (hspared : ∀ k ∈ w.announced, r.2.store.statusAt k.1 k.2 = w.store.statusAt k.1 k.2) :
    Truthful (Service.put i r) := by
  cases hturn with
  | still heq =>
    subst heq
    refine h.put rfl hspared (fun call write next hp => ?_) h.recorded
    exact h.settled i call write next (hget.trans (congrArg some hp))
  | quiet hsame hfine hsilent hattempt =>
    exact h.put hsame.ops hspared (fun _ _ _ hp => absurd hp (not_settled hsilent _ _ _))
      (h.recorded.same hsame)
  | rejects hsame hphase =>
    refine h.put hsame.ops hspared (fun call write next hp => ?_)
      ((h.recorded.fails i .rejected).same hsame)
    rw [hphase] at hp
    exact Phase.noConfusion hp
  | deposits call hphase heq =>
    have hrecorded := h.recorded.deposit i call
    have hops := ops_deposit i call w
    rw [heq] at hspared ⊢
    exact h.put hops hspared (fun _ _ _ hp => Phase.noConfusion hp) hrecorded
  | emits call write next hphase hsame hplain =>
    rw [hphase] at hget
    obtain ⟨haccepted, hstatus⟩ := h.settled i call write next hget
    have hemit : Recorded (w.emit call write).store.statusAt (w.emit call write).history := by
      have hnoted := h.recorded.emit
        (e := ⟨trim call.threadId, trim call.messageId, call.status, call.sentAtMs⟩) hstatus
      unfold emit
      rw [haccepted]
      exact hnoted
    exact h.put hsame.ops hspared (fun _ _ _ hp => absurd hp (not_settled hplain.silent _ _ _))
      (hemit.same hsame)

/-- **A step of an undisturbed run.** -/
theorem Truthful.step (h : Truthful w) {e : Event} (hok : Undisturbed w e) :
    Truthful (w.step e) := by
  obtain ⟨hwrites, hspared⟩ := hok
  cases Service.step_cases w e with
  | turn i p r hget hturn heq =>
    rw [heq] at hspared ⊢
    exact h.turn hget hturn hspared
  | settles i response call next hevent hget heq =>
    -- the write is accepted, and its row has the status from now on
    have hwrite : (response, call) ∈ w.writes e := by
      rw [hevent]
      show (w.ops.get? i).bind _ = some (response, call)
      rw [hget]
      rfl
    obtain ⟨hresponse, htakes⟩ := hwrites _ hwrite
    rw [heq] at hspared ⊢
    obtain ⟨write, hphase, ⟨-, haccepted, hstatus, hhistory, hops, -⟩ | ⟨hnot, -⟩⟩ :=
      settle_cases i response call next w
    · obtain ⟨current, hcurrent, hstep⟩ := htakes.statusAt
      refine h.put hops hspared (fun call' write' next' hp => ?_) ?_
      · rw [hphase] at hp
        obtain ⟨rfl, rfl, rfl⟩ := Phase.settled.inj hp
        refine ⟨haccepted hresponse, (hstatus _ _).trans ?_⟩
        rw [if_pos ⟨rfl, rfl⟩]
      · rw [hhistory]
        exact h.recorded.write hcurrent hstep hstatus
    · exact absurd htakes (hnot hresponse)
  | starts r hsame hfine hsilent heq =>
    rw [heq] at hspared ⊢
    have hput : Truthful (Service.put r.2.begun r) :=
      h.put hsame.ops hspared (fun _ _ _ hp => absurd hp (not_settled hsilent _ _ _))
        (h.recorded.same hsame)
    exact ⟨hput.settled, hput.recorded⟩
  | rewrites store heq =>
    rw [heq] at hspared ⊢
    refine ⟨fun j call write next hj => ?_, h.recorded.rewrite store⟩
    obtain ⟨haccepted, hstatus⟩ := h.settled j call write next hj
    exact ⟨haccepted, (hspared _ (mem_announced hj)).trans hstatus⟩
  | stays hsame =>
    refine ⟨fun j call write next hj => ?_, h.recorded.same hsame⟩
    rw [hsame.ops] at hj
    obtain ⟨haccepted, hstatus⟩ := h.settled j call write next hj
    exact ⟨haccepted, (hsame.statusAt _ _).trans hstatus⟩
  | dies heq =>
    rw [heq]
    refine ⟨fun j call write next hj => absurd hj (by simp [died]), ?_⟩
    have hlost := h.recorded.failed ((w.ops.entries.filter fun op =>
      decide (op.2 ≠ .returned ∧ op.2 ≠ .threw)).map fun op => (op.1, Failure.lost))
    rw [map_map] at hlost
    exact hlost

/-- A service that has said nothing yet. -/
theorem truthful_fresh (ownerAccountId : String) (store : Store c) :
    Truthful (fresh ownerAccountId store) :=
  ⟨fun _ _ _ _ h => absurd h (by simp [fresh]),
    fun _ _ _ h => absurd h (not_mem_nil), fun _ _ h => absurd h id, trivial⟩

/-- **What is emitted is what is stored.** In a run whose every status write is accepted, and in
which no row changes between the write of its status and the emit, each status that is emitted is
that of its row, and no row is `sent` after it was `delivered`. -/
theorem run_emits_stored (c : Collation) (ownerAccountId : String) (store : Store c)
    (events : List Event)
    (hevents : Runs.Meets step Undisturbed (fresh ownerAccountId store) events)
    (n : Nat) : EmitsStored ((fresh ownerAccountId store).after (events.take n)) := by
  refine Runs.throughout (P := EmitsStored) _ (fun events hmeets => ?_) events hevents n
  have htruthful : Truthful (Runs.run step (fresh ownerAccountId store) events) :=
    Runs.invariant step (fun _ _ h hok => h.step hok) events _
      (truthful_fresh ownerAccountId store) hmeets
  exact ⟨htruthful.recorded.emitted, htruthful.recorded.noRelapse⟩

end Runs

/-! ### A frame and an ack -/

/-- Alice's thread with Bob. -/
def withBob : Store Collation.byCodePoint :=
  Store.withThreads (OrdMap.empty.set "th_1" ⟨.direct, "bob", "inbox", 1, 1⟩)

def hello : SendCall := ⟨"th_1", "m", false, "", "hello", {}, 0⟩

/-- The node queues what it is given. -/
def queuedByNode : DeliveryParts := ⟨true, "", .threw false, none, .queued "inbox"⟩

/-- Alice's message is queued, and Bob acknowledges it. -/
def queuedThenAcked : List Event :=
  [.send hello, .advance 0 .ok, .advance 0 .ok, .advance 0 .ok, .deliver 0 queuedByNode,
    .advance 0 .ok, .advance 0 .ok, .deliveryAck "" ["m"], .advance 1 .ok, .advance 1 .ok]

/-- The ack goes on. -/
def ackGoesOn : List Event := queuedThenAcked ++ [Event.advance 1 .ok]

theorem run_emits_stored_acked :
    EmitsStored ((fresh "alice" withBob).after (ackGoesOn.take 11)) :=
  run_emits_stored Collation.byCodePoint "alice" withBob ackGoesOn (by decide) 11

/-- The node tells of the delivery before the ack goes on. -/
def frameComesBetween : List Event :=
  queuedThenAcked ++ [Event.outboundStatus "inbox" true, Event.advance 1 .ok, Event.advance 2 .ok,
    Event.advance 2 .ok]

/-- **`sent` after `delivered`.** The ack of a queued message is written, and before the ack goes
on, the frame of the node comes that tells of the delivery. Its `sent` is refused, and emitted
after the `delivered` of the ack. -/
theorem sent_after_delivered : ¬ ∀ ownerAccountId (store : Store Collation.byCodePoint)
    (events : List Event) n,
    EmitsStored ((fresh ownerAccountId store).after (events.take n)) := by
  intro h
  have hrun := h "alice" withBob frameComesBetween 14
  have hhistory : ((fresh "alice" withBob).after (frameComesBetween.take 14)).history =
      [.emitted ⟨"th_1", "m", .sent, some 0⟩ false (some .delivered), .failed 2 .unwritten,
        .emitted ⟨"th_1", "m", .delivered, none⟩ true (some .delivered),
        .emitted ⟨"th_1", "m", .queued, none⟩ true (some .queued),
        .deposited 0 "th_1" "m", .renewed "th_1" "m"] := by decide
  -- the law fails in both of its parts
  have hrelapse := hrun.noRelapse
  rw [hhistory] at hrelapse
  exact hrelapse.1 rfl (Or.inl ⟨rfl, rfl, rfl⟩)

end RezChat.Delivery
