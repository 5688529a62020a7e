/-
What one step does to the messages on their way out.

Of all that a procedure does, four things matter to the rows and to what is said of them: a
message is deposited, a status is written, a status is emitted, a call is rejected. Whatever else
a procedure does leaves the statuses and the history alone (`Turn`), and a step of the service is a
turn of a procedure, the start of one, a call of another service, or the death of the process
(`step_cases`).
-/
import RezChat.Delivery.Outgoing

set_option autoImplicit false

namespace RezChat.Delivery

open Inbox (trim)
open Messages (ChatMessage ChatThread Collation MessageStatus StatusCall StatusWrite Store)

/-! ## Phases -/

namespace Phase

/-- The row whose status was written and is not yet emitted. -/
def announces : Phase → Option (String × String)
  | .settled call _ _ => some (trim call.threadId, trim call.messageId)
  | _ => none

/-- The message that is sent, up to the first status that is written for it. -/
def attempt : Phase → Option (String × String)
  | .signing call | .depositing call | .recordingFact call | .routing call | .delivering call _ =>
    some (trim call.threadId, trim call.messageId)
  | .settling call (.send _ _) => some (trim call.threadId, trim call.messageId)
  | _ => none

/-- No status that is written is `pending`. -/
def Fine : Phase → Prop
  | .settling call _ | .settled call _ _ => call.status ≠ .pending
  | _ => True

/-- A phase of a procedure that has no message to send, and nothing to emit. -/
structure Plain (p : Phase) : Prop where
  fine : p.Fine
  silent : p.announces = none
  idle : p.attempt = none

/-- A phase in which a loop over acks, messages, threads or rows goes on, or ends. -/
def OfLoop : Phase → Prop
  | .returned | .checkingCommit _ _ _ | .nextOfFrame _ _ | .listingMessages _
  | .loadingThread _ _ | .findingOriginal _ _ => True
  | .settling call (.frame _ _ _) | .settling call (.recovery _) => call.status ≠ .pending
  | _ => False

/-- The phase does not write a status. -/
def Calm : Phase → Prop
  | .settling _ _ => False
  | _ => True

end Phase

theorem plain_returned : Phase.returned.Plain := ⟨trivial, rfl, rfl⟩

theorem plain_threw : Phase.threw.Plain := ⟨trivial, rfl, rfl⟩

theorem Phase.OfLoop.plain {p : Phase} (h : p.OfLoop) : p.Plain := by
  cases p with
  | settling call next =>
    cases next with
    | frame f n todo => exact ⟨h, rfl, rfl⟩
    | recovery r => exact ⟨h, rfl, rfl⟩
    | send call isGroup => exact absurd h id
    | deliveryAck acks => exact absurd h id
    | commitAck => exact absurd h id
  | returned => exact plain_returned
  | checkingCommit acks threadId messageId => exact ⟨trivial, rfl, rfl⟩
  | nextOfFrame f todo => exact ⟨trivial, rfl, rfl⟩
  | listingMessages r => exact ⟨trivial, rfl, rfl⟩
  | loadingThread r messageId => exact ⟨trivial, rfl, rfl⟩
  | findingOriginal row sweep => exact ⟨trivial, rfl, rfl⟩
  | _ => exact absurd h id

theorem status_ne_pending (r : Routed) : r.status ≠ .pending := by
  unfold Routed.status
  split_ifs
  · exact fun h => MessageStatus.noConfusion h
  · exact fun h => MessageStatus.noConfusion h
  · exact fun h => MessageStatus.noConfusion h

namespace Service

theorem ofLoop_nextAck (threadId : String) (nowMs : Int) (m : Memory) : ∀ items : List String,
    (nextAck threadId nowMs items m).OfLoop
  | [] => trivial
  | item :: todo => by
    unfold nextAck
    split_ifs
    · exact ofLoop_nextAck threadId nowMs m todo
    · exact trivial

theorem ofLoop_applyFrame (f : OutboundFrame) (todo : List String) (m : Memory) :
    (applyFrame f todo m).1.OfLoop := by
  cases todo with
  | nil => exact trivial
  | cons messageId todo =>
    rw [applyFrame]
    split
    · exact trivial
    · dsimp only
      split_ifs
      · exact fun h => MessageStatus.noConfusion h
      · exact fun h => MessageStatus.noConfusion h
      · exact trivial

theorem ofLoop_nextThread (nowMs : Int) (todo : List String) : (nextThread nowMs todo).OfLoop := by
  cases todo with
  | nil => exact trivial
  | cons threadId todo => exact trivial

theorem ofLoop_recoverItems (nowMs : Int) (threadId : String) (todo : List String)
    (thread : Option (Option ChatThread)) : ∀ (items : List ChatMessage) (m : Memory),
    (recoverItems nowMs threadId todo thread items m).1.OfLoop
  | [], m => ofLoop_nextThread nowMs todo
  | message :: items, m => by
    rw [recoverItems]
    by_cases hqueued : message.status ≠ .queued
    · rw [if_pos hqueued]
      exact ofLoop_recoverItems nowMs threadId todo thread items m
    · rw [if_neg hqueued]
      by_cases hold : nowMs - message.createdAtMs > queueTtlMs
      · rw [if_pos hold]
        exact fun h => MessageStatus.noConfusion h
      · rw [if_neg hold]
        cases thread with
        | none => exact trivial
        | some t => exact ofLoop_recoverItems nowMs threadId todo (some t) items _

theorem ofLoop_nextRetry (force : Bool) (nowMs : Int) (m : Memory) : ∀ rows : List PendingCommit,
    (nextRetry force nowMs rows m).1.OfLoop
  | [] => trivial
  | row :: todo => by
    unfold nextRetry
    split_ifs
    · exact ofLoop_nextRetry force nowMs m todo
    · exact trivial

variable {c : Collation} {w : Service c}

theorem plain_proceed (call : StatusCall) (next : Next) (w : Service c) :
    (w.proceed call next).1.Plain := by
  cases next with
  | send send isGroup =>
    unfold proceed
    dsimp only
    split_ifs
    · exact ⟨trivial, rfl, rfl⟩
    · exact plain_returned
  | deliveryAck acks => exact (ofLoop_nextAck _ _ _ _).plain
  | commitAck => exact plain_returned
  | frame f n todo => exact ⟨trivial, rfl, rfl⟩
  | recovery r => exact (ofLoop_recoverItems _ _ _ _ _ _).plain

/-! ## Turns -/

/-- The statuses and the history are those of another service, and so are the procedures. -/
structure Same (w w' : Service c) : Prop where
  statusAt : ∀ threadId messageId,
    w'.store.statusAt threadId messageId = w.store.statusAt threadId messageId
  history : w'.history = w.history
  ops : w'.ops = w.ops
  begun : w'.begun = w.begun

theorem Same.refl (w : Service c) : Same w w := ⟨fun _ _ => rfl, rfl, rfl, rfl⟩

theorem Same.trans {w w' w'' : Service c} (h : Same w w') (h' : Same w' w'') : Same w w'' :=
  ⟨fun t m => (h'.statusAt t m).trans (h.statusAt t m), h'.history.trans h.history,
    h'.ops.trans h.ops, h'.begun.trans h.begun⟩

theorem same_withMemory (m : Memory) (w : Service c) : Same w (w.withMemory m) :=
  ⟨fun _ _ => rfl, rfl, rfl, rfl⟩

theorem same_withCommits (commits : OrdMap String PendingCommit) (w : Service c) :
    Same w (w.withCommits commits) := ⟨fun _ _ => rfl, rfl, rfl, rfl⟩

/-- A call that changes no status leaves no note. -/
theorem same_rewrite {store : Store c}
    (h : ∀ threadId messageId, store.statusAt threadId messageId = w.store.statusAt threadId messageId) :
    Same w (w.rewrite store) := by
  have hnone : w.store.renewed store = [] := by
    refine List.filter_eq_nil_iff.2 fun k _ hk => ?_
    exact of_decide_eq_true hk (h k.1 k.2).symm
  refine ⟨h, ?_, rfl, rfl⟩
  show (w.store.renewed store).map _ ++ w.history = w.history
  rw [hnone]
  rfl

theorem same_recordFact (call : SendCall) (w : Service c) : Same w (w.recordFact call) := by
  unfold recordFact
  split_ifs
  · exact Same.refl w
  · exact same_rewrite fun _ _ => rfl

theorem same_proceed (call : StatusCall) (next : Next) (w : Service c) :
    Same w (w.proceed call next).2 := by
  cases next with
  | send send isGroup => exact Same.refl w
  | deliveryAck acks => exact same_withMemory _ w
  | commitAck => exact same_withMemory _ w
  | frame f n todo => exact same_withMemory _ w
  | recovery r => exact same_withMemory _ w

/-- A turn of the procedure `i` that writes no status. -/
inductive Turn (i : Nat) (p : Phase) (w : Service c) (r : Phase × Service c) : Prop where
  | still (heq : r = (p, w))
  /-- Nothing that matters. -/
  | quiet (hsame : Same w r.2) (hfine : r.1.Fine) (hsilent : r.1.announces = none)
      (hattempt : r.1.attempt = p.attempt)
  | rejects (hsame : Same (w.note (.failed i .rejected)) r.2) (hphase : r.1 = .threw)
  | deposits (call : SendCall) (hphase : p = .depositing call)
      (heq : r = (.recordingFact call, w.deposit i call))
  | emits (call : StatusCall) (write : StatusWrite) (next : Next)
      (hphase : p = .settled call write next) (hsame : Same (w.emit call write) r.2)
      (hplain : r.1.Plain)

/-- A plain phase after another that sends nothing. -/
theorem Turn.plain {i : Nat} {p : Phase} {r : Phase × Service c} (hsame : Same w r.2)
    (hplain : r.1.Plain) (hidle : p.attempt = none) : Turn i p w r :=
  .quiet hsame hplain.fine hplain.silent (hplain.idle.trans hidle.symm)

theorem turn_routed (i : Nat) {p : Phase} {call : SendCall} {w' : Service c} (r : Routed)
    (hsame : Same w w') (hattempt : p.attempt = some (trim call.threadId, trim call.messageId)) :
    Turn i p w (w'.routed call r) :=
  .quiet (hsame.trans (same_withMemory _ w')) (status_ne_pending r) rfl hattempt.symm

theorem same_factRecorded (response : Response) (call : SendCall) (w : Service c) :
    Same w (match response with
      | .ok | .throwsLate => w.recordFact call
      | .throws => w) := by
  cases response with
  | ok => exact same_recordFact call w
  | throws => exact Same.refl w
  | throwsLate => exact same_recordFact call w

/-- **A turn.** An awaited operation comes to its end, and the procedure goes on. -/
theorem turn_advance (i : Nat) (response : Response) (p : Phase) (w : Service c) (hcalm : p.Calm) :
    Turn i p w (advance i response p w) := by
  cases p with
  | settling call next => exact absurd hcalm id
  | signing call =>
    cases response with
    | ok => exact .quiet (Same.refl w) trivial rfl rfl
    | throws => exact .rejects (Same.refl _) rfl
    | throwsLate => exact .rejects (Same.refl _) rfl
  | depositing call =>
    cases response with
    | ok => exact .deposits call rfl rfl
    | throws => exact .quiet (Same.refl w) trivial rfl rfl
    | throwsLate => exact .deposits call rfl rfl
  | recordingFact call =>
    have hsame := same_factRecorded response call w
    unfold advance
    dsimp only
    split_ifs
    · exact .quiet hsame trivial rfl rfl
    · exact turn_routed i Routed.nowhere hsame rfl
  | routing call => cases response <;> exact .quiet (Same.refl w) trivial rfl rfl
  | delivering call thread => exact .quiet (Same.refl w) trivial rfl rfl
  | openingCommit call =>
    cases response with
    | ok =>
      unfold advance
      dsimp only
      split
      · exact .plain (Same.refl w) plain_returned rfl
      · split_ifs
        · exact .plain (Same.refl w) plain_returned rfl
        · exact .quiet (Same.refl w) trivial rfl rfl
    | throws => exact .plain (Same.refl w) plain_returned rfl
    | throwsLate => exact .plain (Same.refl w) plain_returned rfl
  | puttingCommit call recipientAccountId =>
    cases response with
    | ok => exact .plain (same_withCommits _ w) plain_returned rfl
    | throws => exact .plain (Same.refl w) plain_returned rfl
    | throwsLate => exact .plain (same_withCommits _ w) plain_returned rfl
  | checkingCommit acks threadId messageId =>
    cases response with
    | ok =>
      unfold advance
      dsimp only
      split
      · exact .plain (Same.refl w) (ofLoop_nextAck _ _ _ _).plain rfl
      · exact .quiet (Same.refl w) (fun h => MessageStatus.noConfusion h) rfl rfl
    | throws => exact .plain (Same.refl w) plain_threw rfl
    | throwsLate => exact .plain (Same.refl w) plain_threw rfl
  | findingClaim ack =>
    cases response with
    | ok =>
      unfold advance
      dsimp only
      split
      · refine .plain (Same.refl w) ?_ rfl
        dsimp only
        split_ifs
        · exact ⟨trivial, rfl, rfl⟩
        · exact plain_returned
      · exact .plain (Same.refl w) ⟨trivial, rfl, rfl⟩ rfl
    | throws => exact .plain (Same.refl w) plain_threw rfl
    | throwsLate => exact .plain (Same.refl w) plain_threw rfl
  | findingFact ack =>
    cases response with
    | ok =>
      refine .plain (Same.refl w) ?_ rfl
      unfold advance
      dsimp only
      split_ifs
      · exact ⟨trivial, rfl, rfl⟩
      · exact plain_returned
    | throws => exact .plain (Same.refl w) plain_threw rfl
    | throwsLate => exact .plain (Same.refl w) plain_threw rfl
  | verifying ack pending =>
    cases response with
    | ok => exact .quiet (Same.refl w) trivial rfl rfl
    | throws => exact .plain (Same.refl w) plain_threw rfl
    | throwsLate => exact .plain (Same.refl w) plain_threw rfl
  | consuming ack pending =>
    cases response with
    | ok => exact .plain (same_withCommits _ w) ⟨trivial, rfl, rfl⟩ rfl
    | throws => exact .plain (Same.refl w) plain_threw rfl
    | throwsLate => exact .plain (same_withCommits _ w) plain_threw rfl
  | findingThread ack threadId =>
    cases response with
    | ok =>
      unfold advance
      dsimp only
      split
      · exact .plain (Same.refl w) plain_returned rfl
      · split_ifs
        · exact .plain (Same.refl w) plain_returned rfl
        · exact .quiet (Same.refl w) (fun h => MessageStatus.noConfusion h) rfl rfl
    | throws => exact .plain (Same.refl w) plain_returned rfl
    | throwsLate => exact .plain (Same.refl w) plain_returned rfl
  | nextOfFrame f todo => exact .plain (same_withMemory _ w) (ofLoop_applyFrame f todo _).plain rfl
  | listingThreads =>
    cases response with
    | ok => exact .plain (Same.refl w) (ofLoop_nextThread _ _).plain rfl
    | throws => exact .plain (Same.refl w) plain_threw rfl
    | throwsLate => exact .plain (Same.refl w) plain_threw rfl
  | listingMessages r =>
    cases response with
    | ok => exact .plain (same_withMemory _ w) (ofLoop_recoverItems _ _ _ _ _ _).plain rfl
    | throws => exact .plain (Same.refl w) (ofLoop_nextThread _ _).plain rfl
    | throwsLate => exact .plain (Same.refl w) (ofLoop_nextThread _ _).plain rfl
  | loadingThread r messageId =>
    exact .plain (same_withMemory _ w) (ofLoop_recoverItems _ _ _ _ _ _).plain rfl
  | listingCommits force =>
    cases response with
    | ok => exact .plain (same_withMemory _ w) (ofLoop_nextRetry _ _ _ _).plain rfl
    | throws => exact .plain (same_withMemory _ w) plain_threw rfl
    | throwsLate => exact .plain (same_withMemory _ w) plain_threw rfl
  | findingOriginal row sweep =>
    cases response with
    | ok =>
      unfold advance
      dsimp only
      split
      · exact .plain (Same.refl w) ⟨trivial, rfl, rfl⟩ rfl
      · exact .plain (Same.refl w) ⟨trivial, rfl, rfl⟩ rfl
    | throws => exact .plain (same_withMemory _ w) (ofLoop_nextRetry _ _ _ _).plain rfl
    | throwsLate => exact .plain (same_withMemory _ w) (ofLoop_nextRetry _ _ _ _).plain rfl
  | droppingCommit row sweep =>
    cases response with
    | ok =>
      exact .plain ((same_withCommits _ w).trans (same_withMemory _ _)) (ofLoop_nextRetry _ _ _ _).plain rfl
    | throws => exact .plain (same_withMemory _ w) (ofLoop_nextRetry _ _ _ _).plain rfl
    | throwsLate =>
      exact .plain ((same_withCommits _ w).trans (same_withMemory _ _)) (ofLoop_nextRetry _ _ _ _).plain rfl
  | rescheduling row sweep =>
    cases response with
    | ok => exact .plain (same_withCommits _ w) ⟨trivial, rfl, rfl⟩ rfl
    | throws => exact .plain (same_withMemory _ w) (ofLoop_nextRetry _ _ _ _).plain rfl
    | throwsLate =>
      exact .plain ((same_withCommits _ w).trans (same_withMemory _ _)) (ofLoop_nextRetry _ _ _ _).plain rfl
  | redelivering row sweep => exact .plain (same_withMemory _ w) (ofLoop_nextRetry _ _ _ _).plain rfl
  | settled call write next =>
    exact .emits call write next rfl (same_proceed call next (w.emit call write))
      (plain_proceed call next (w.emit call write))
  | returned => exact .plain (Same.refl w) plain_returned rfl
  | threw => exact .plain (Same.refl w) plain_threw rfl

theorem turn_deliver (i : Nat) (parts : DeliveryParts) (p : Phase) (w : Service c) :
    Turn i p w (deliver i parts p w) := by
  cases p with
  | delivering call thread =>
    unfold deliver
    dsimp only
    split
    · exact .rejects (Same.refl _) rfl
    · exact turn_routed i _ (Same.refl w) rfl
  | _ => exact .still rfl

theorem turn_verify (i : Nat) (accepted : Bool) (p : Phase) (w : Service c) :
    Turn i p w (verify accepted p w) := by
  cases p with
  | verifying ack pending =>
    unfold verify
    dsimp only
    split_ifs
    · exact .plain (Same.refl w) plain_returned rfl
    · cases pending with
      | none => exact .plain (Same.refl w) ⟨trivial, rfl, rfl⟩ rfl
      | some row => exact .plain (Same.refl w) ⟨trivial, rfl, rfl⟩ rfl
  | _ => exact .still rfl

/-! ## Status writes -/

/-- **A status write** moves the row, or leaves a note that it did not. -/
theorem settle_cases (i : Nat) (response : Response) (call : StatusCall) (next : Next)
    (w : Service c) :
    ∃ write, (advance i response (.settling call next) w).1 = .settled call write next ∧
      ((w.store.Takes call ∧ (response = .ok → write.accepted = true) ∧
        (∀ threadId messageId,
          (advance i response (.settling call next) w).2.store.statusAt threadId messageId =
            if threadId = trim call.threadId ∧ messageId = trim call.messageId
            then some call.status else w.store.statusAt threadId messageId) ∧
        (advance i response (.settling call next) w).2.history = w.history ∧
        (advance i response (.settling call next) w).2.ops = w.ops ∧
        (advance i response (.settling call next) w).2.begun = w.begun) ∨
      ((response = .ok → ¬ w.store.Takes call) ∧ write.accepted = false ∧
        Same (w.note (.failed i .unwritten)) (advance i response (.settling call next) w).2)) := by
  have hwrite := Store.setMessageStatus_cases w.clock call w.store
  cases response with
  | throws =>
    exact ⟨.threw, rfl, .inr ⟨fun h => Response.noConfusion h, rfl, Same.refl _⟩⟩
  | ok =>
    refine ⟨(w.store.setMessageStatus w.clock call).2, rfl, ?_⟩
    rcases hwrite with ⟨htakes, ⟨m, hm⟩, hstatus⟩ | ⟨htakes, hstore, haccepted⟩
    · have haccepted : (w.store.setMessageStatus w.clock call).2.accepted = true := by
        rw [hm]
        rfl
      refine .inl ⟨htakes, fun _ => haccepted, ?_⟩
      rw [advance]
      dsimp only
      rw [if_pos haccepted]
      exact ⟨hstatus, rfl, rfl, rfl⟩
    · refine .inr ⟨fun _ => htakes, haccepted, ?_⟩
      rw [advance]
      dsimp only
      rw [if_neg (by rw [haccepted]; exact Bool.false_ne_true)]
      exact Same.refl _
  | throwsLate =>
    refine ⟨.threw, rfl, ?_⟩
    rcases hwrite with ⟨htakes, ⟨m, hm⟩, hstatus⟩ | ⟨htakes, hstore, haccepted⟩
    · have haccepted : (w.store.setMessageStatus w.clock call).2.accepted = true := by
        rw [hm]
        rfl
      refine .inl ⟨htakes, fun h => Response.noConfusion h, ?_⟩
      rw [advance]
      dsimp only
      rw [if_pos haccepted]
      exact ⟨hstatus, rfl, rfl, rfl⟩
    · refine .inr ⟨fun h => Response.noConfusion h, rfl, ?_⟩
      rw [advance]
      dsimp only
      rw [if_neg (by rw [haccepted]; exact Bool.false_ne_true)]
      exact Same.refl _

/-! ## Steps -/

/-- The service after the process died. -/
def died (w : Service c) : Service c :=
  { w with memory := Memory.empty, ops := OrdMap.empty, history := w.lost ++ w.history }

/-- What a step is. -/
inductive Stepped (w : Service c) (e : Event) (w' : Service c) : Prop where
  | turn (i : Nat) (p : Phase) (r : Phase × Service c) (hget : w.ops.get? i = some p)
      (hturn : Turn i p w r) (heq : w' = put i r)
  | settles (i : Nat) (response : Response) (call : StatusCall) (next : Next)
      (hevent : e = .advance i response) (hget : w.ops.get? i = some (.settling call next))
      (heq : w' = put i (advance i response (.settling call next) w))
  | starts (r : Phase × Service c) (hsame : Same w r.2) (hfine : r.1.Fine)
      (hsilent : r.1.announces = none) (heq : w' = start r)
  | rewrites (store : Store c) (heq : w' = w.rewrite store)
  | stays (hsame : Same w w')
  | dies (heq : w' = w.died)

theorem starts_plain {e : Event} {r : Phase × Service c} (hsame : Same w r.2) (h : r.1.Plain) :
    Stepped w e (start r) := .starts r hsame h.fine h.silent rfl

/-- **A step** of the service. -/
theorem step_cases (w : Service c) (e : Event) : Stepped w e (w.step e) := by
  have hresume : ∀ (i : Nat) (f : Phase → Service c → Phase × Service c),
      (∀ p, w.ops.get? i = some p → Stepped w e (put i (f p w))) →
      Stepped w e (w.resume i f) := by
    intro i f h
    unfold resume
    cases hget : w.ops.get? i with
    | none => exact .stays (Same.refl w)
    | some p => exact h p hget
  cases e with
  | send call =>
    show Stepped w _ (w.beginSend call)
    unfold beginSend
    dsimp only
    split_ifs
    · exact .stays (Same.refl w)
    · exact .starts (.signing _, _) (same_withMemory _ w) trivial rfl rfl
    · exact .starts (.depositing _, _) (same_withMemory _ w) trivial rfl rfl
  | deliveryAck threadId messageIds => exact starts_plain (Same.refl w) (ofLoop_nextAck _ _ _ _).plain
  | commitAck ack =>
    show Stepped w _ (w.beginCommitAck ack)
    unfold beginCommitAck
    dsimp only
    split_ifs
    · exact .stays (Same.refl w)
    · exact starts_plain (Same.refl w) ⟨trivial, rfl, rfl⟩
  | outboundStatus deliverInboxId delivered =>
    show Stepped w _ (w.beginFrame deliverInboxId delivered)
    unfold beginFrame
    split
    · exact .stays (Same.refl w)
    · exact .stays (same_withMemory _ w)
    · exact starts_plain (same_withMemory _ w) (ofLoop_applyFrame _ _ _).plain
  | recover => exact starts_plain (Same.refl w) ⟨trivial, rfl, rfl⟩
  | sweep force =>
    show Stepped w _ (if _ then _ else _)
    split_ifs
    · exact .stays (Same.refl w)
    · exact starts_plain (same_withMemory _ w) ⟨trivial, rfl, rfl⟩
  | stop => exact .stays (same_withMemory _ w)
  | advance i response =>
    refine hresume i _ fun p hget => ?_
    cases p with
    | settling call next => exact .settles i response call next rfl hget rfl
    | _ => exact .turn i _ _ hget (turn_advance i response _ w trivial) rfl
  | deliver i parts => exact hresume i _ fun p hget => .turn i p _ hget (turn_deliver i parts p w) rfl
  | verify i accepted => exact hresume i _ fun p hget => .turn i p _ hget (turn_verify i accepted p w) rfl
  | store op => exact .rewrites _ rfl
  | storeStatus call => exact .rewrites _ rfl
  | deleteThread threadId => exact .rewrites _ rfl
  | tick clock dice => exact .stays ⟨fun _ _ => rfl, rfl, rfl, rfl⟩
  | crash => exact .dies rfl

end Service

end RezChat.Delivery
