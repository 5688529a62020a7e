/-
Messages that stay `pending` (`services/ServerMessagesService.js`, `sendMessage` and
`#recoverQueuedMessages`).

A message is `pending` from its deposit to the first status that is written for it. If delivering
it throws, `sendMessage` rejects before it writes one: the row stays `pending`, no queue entry or
pending commit knows of it, and a restart only takes up the rows that are `queued`
(`rejected_stays_pending`). That is for the caller, who is told, and sends it again under its id.

Nothing else leaves a row `pending`: the message is still being sent, or its sending was rejected,
or lost with the process, or its status could not be written (`run_settles`).
-/
import RezChat.Delivery.Status

set_option autoImplicit false

namespace RezChat.Delivery

open Inbox (trim)
open Messages (Collation MessageStatus StatusCall StatusWrite Store)
open List Option Service Note

/-! ## The law -/

/-- The procedure whose deposit a row is, unless something else has changed it since. -/
def writerOf (threadId messageId : String) : List Note → Option Nat
  | [] => none
  | .deposited op thread message :: older =>
    if thread = threadId ∧ message = messageId then some op else writerOf threadId messageId older
  | .renewed thread message :: older =>
    if thread = threadId ∧ message = messageId then none else writerOf threadId messageId older
  | .emitted _ _ _ :: older => writerOf threadId messageId older
  | .failed _ _ :: older => writerOf threadId messageId older

/-- Something is there that will resolve the message. -/
def Service.Tracked {c : Collation} (w : Service c) (messageId : String) : Prop :=
  w.commits.has messageId = true ∨ w.memory.queueTracking.has messageId = true

/-- Every `pending` row whose sending has ended is tracked. -/
def StrandsNothing {c : Collation} (w : Service c) : Prop :=
  ∀ threadId messageId i, writerOf threadId messageId w.history = some i →
    (∀ p, w.ops.get? i = some p → p.Ended) →
    w.store.statusAt threadId messageId = some .pending → w.Tracked messageId

/-- Every `pending` row is still being sent, or its sending failed. -/
def Settles {c : Collation} (w : Service c) : Prop :=
  ∀ threadId messageId i, writerOf threadId messageId w.history = some i →
    w.store.statusAt threadId messageId = some .pending →
      (∃ p, w.ops.get? i = some p ∧ p.attempt = some (threadId, messageId)) ∨
        ∃ how, failed i how ∈ w.history

/-! ## The history -/

section History

variable {history : List Note} {threadId messageId : String} {i : Nat}

theorem writerOf_renewed {keys : List (String × String)}
    (h : writerOf threadId messageId (keys.map (fun k => renewed k.1 k.2) ++ history) = some i) :
    (threadId, messageId) ∉ keys ∧ writerOf threadId messageId history = some i := by
  induction keys with
  | nil => exact ⟨not_mem_nil, h⟩
  | cons k keys ih =>
    rw [map_cons, cons_append, writerOf] at h
    by_cases hkey : k.1 = threadId ∧ k.2 = messageId
    · rw [if_pos hkey] at h
      exact nomatch h
    · rw [if_neg hkey] at h
      obtain ⟨hnot, hwriter⟩ := ih h
      refine ⟨fun hmem => ?_, hwriter⟩
      rcases mem_cons.1 hmem with hsame | hmem
      · exact hkey ⟨(congrArg Prod.fst hsame).symm, (congrArg Prod.snd hsame).symm⟩
      · exact hnot hmem

theorem writerOf_failed (failures : List (Nat × Failure)) :
    writerOf threadId messageId (failures.map (fun f => failed f.1 f.2) ++ history) =
      writerOf threadId messageId history := by
  induction failures with
  | nil => rfl
  | cons f failures ih => exact ih

end History

/-! ## Runs -/

section Runs

variable {c : Collation} {w w' : Service c} {i : Nat} {p : Phase}

/-- A row that is `pending`, and whose sending did not fail, is still being sent. -/
structure Attended (w : Service c) : Prop where
  fine : ∀ i p, w.ops.get? i = some p → p.Fine
  begun : ∀ i p, w.ops.get? i = some p → i < w.begun
  settles : Settles w

variable {r : Phase × Service c}

/-- A procedure comes to a phase. What the others send is as it was, and of its own message it is
said what became of it. -/
theorem Attended.put (h : Attended w) (hget : w.ops.get? i = some p)
    (hops : r.2.ops = w.ops) (hbegun : r.2.begun = w.begun) (hfine : r.1.Fine)
    (hmono : ∀ n, n ∈ w.history → n ∈ r.2.history)
    (hrow : ∀ threadId messageId j, writerOf threadId messageId r.2.history = some j →
      r.2.store.statusAt threadId messageId = some .pending →
      (j = i ∧ r.1.attempt = some (threadId, messageId)) ∨
      (j = i ∧ ∃ how, failed i how ∈ r.2.history) ∨
      (writerOf threadId messageId w.history = some j ∧
        w.store.statusAt threadId messageId = some .pending ∧
        (r.1.attempt = p.attempt ∨ j ≠ i ∨ p.attempt ≠ some (threadId, messageId)))) :
    Attended (put i r) := by
  have hput : ∀ j, (Service.put i r).ops.get? j = if j = i then some r.1 else w.ops.get? j := by
    intro j
    show (r.2.ops.set i r.1).get? j = _
    rw [OrdMap.get?_set, hops]
  refine ⟨fun j q hj => ?_, fun j q hj => ?_, fun t m j hwriter hpending => ?_⟩
  · rw [hput] at hj
    by_cases hij : j = i
    · rw [if_pos hij, some_inj] at hj
      rw [← hj]
      exact hfine
    · rw [if_neg hij] at hj
      exact h.fine j q hj
  · show j < r.2.begun
    rw [hbegun]
    rw [hput] at hj
    by_cases hij : j = i
    · rw [hij]
      exact h.begun i p hget
    · rw [if_neg hij] at hj
      exact h.begun j q hj
  · rcases hrow t m j hwriter hpending with ⟨rfl, hself⟩ | ⟨rfl, how, hfailed⟩ | ⟨hold, hwas, hsame⟩
    · exact .inl ⟨r.1, by rw [hput, if_pos rfl], hself⟩
    · exact .inr ⟨how, hfailed⟩
    · rcases h.settles t m j hold hwas with ⟨q, hq, hattempt⟩ | ⟨how, hfailed⟩
      · by_cases hij : j = i
        · -- the procedure itself, which goes on with its message
          rw [hij, hget, some_inj] at hq
          rw [← hq] at hattempt
          rcases hsame with hsame | hne | hother
          · exact .inl ⟨r.1, by rw [hput, if_pos hij], hsame.trans hattempt⟩
          · exact absurd hij hne
          · exact absurd hattempt hother
        · exact .inl ⟨q, by rw [hput, if_neg hij]; exact hq, hattempt⟩
      · exact .inr ⟨how, hmono _ hfailed⟩

/-- A procedure that does nothing to the rows. -/
theorem Attended.quiet (h : Attended w) (hget : w.ops.get? i = some p)
    (hsame : w.Same r.2) (hfine : r.1.Fine) (hattempt : r.1.attempt = p.attempt) :
    Attended (Service.put i r) := by
  refine h.put hget hsame.ops hsame.begun hfine (fun n hn => by rw [hsame.history]; exact hn)
    fun t m j hwriter hpending => .inr (.inr ⟨?_, ?_, .inl hattempt⟩)
  · rw [← hsame.history]
    exact hwriter
  · rw [← hsame.statusAt]
    exact hpending

/-- A procedure whose failure is noted. -/
theorem Attended.fails (h : Attended w) (hget : w.ops.get? i = some p)
    {how : Failure} (hsame : (w.note (.failed i how)).Same r.2) (hfine : r.1.Fine) :
    Attended (Service.put i r) := by
  have hmem : failed i how ∈ r.2.history := by
    rw [hsame.history]
    exact mem_cons_self
  refine h.put hget hsame.ops hsame.begun hfine
    (fun n hn => by rw [hsame.history]; exact mem_cons_of_mem _ hn)
    fun t m j hwriter hpending => ?_
  rw [hsame.history] at hwriter
  rw [hsame.statusAt] at hpending
  by_cases hij : j = i
  · exact .inr (.inl ⟨hij, how, hmem⟩)
  · exact .inr (.inr ⟨hwriter, hpending, .inr (.inl hij)⟩)

theorem begun_deposit (i : Nat) (call : SendCall) (w : Service c) :
    (w.deposit i call).begun = w.begun := by
  unfold deposit
  split <;> rfl

/-- What a deposit does to the rows, and to the history. -/
theorem deposit_cases (i : Nat) (call : SendCall) (w : Service c) :
    w.deposit i call = w ∨ ∃ store, (w.deposit i call).store = store ∧
      (w.deposit i call).history = .deposited i (trim call.threadId) (trim call.messageId) ::
        (w.rewrite store).history := by
  unfold deposit
  split
  · exact .inl rfl
  · exact .inr ⟨_, rfl, rfl⟩

/-- A row that a call of the store does not renew was as it is. -/
theorem statusAt_of_writer {store : Store c} {threadId messageId : String} {j : Nat}
    (h : writerOf threadId messageId (w.rewrite store).history = some j) :
    writerOf threadId messageId w.history = some j ∧
      w.store.statusAt threadId messageId = store.statusAt threadId messageId := by
  obtain ⟨hnot, hwriter⟩ := writerOf_renewed h
  refine ⟨hwriter, ?_⟩
  by_contra hne
  exact hnot (Store.mem_renewed hne)

theorem mem_rewrite {store : Store c} {n : Note} (h : n ∈ w.history) :
    n ∈ (w.rewrite store).history := mem_append.2 (.inr h)

/-- A message is deposited. -/
theorem Attended.deposits (h : Attended w) {call : SendCall}
    (hget : w.ops.get? i = some (.depositing call)) :
    Attended (Service.put i (.recordingFact call, w.deposit i call)) := by
  rcases deposit_cases i call w with hsame | ⟨store, hstore, hhistory⟩
  · have hquiet : w.Same (w.deposit i call) := by
      rw [hsame]
      exact Service.Same.refl w
    exact h.quiet hget hquiet trivial rfl
  · refine h.put hget (ops_deposit i call w) (begun_deposit i call w) trivial (fun n hn => ?_)
      fun t m j hwriter hpending => ?_
    · rw [hhistory]
      exact mem_cons_of_mem _ (mem_rewrite hn)
    · rw [hhistory, writerOf] at hwriter
      by_cases hkey : trim call.threadId = t ∧ trim call.messageId = m
      · rw [if_pos hkey, some_inj] at hwriter
        refine .inl ⟨hwriter.symm, ?_⟩
        show some (trim call.threadId, trim call.messageId) = some (t, m)
        rw [hkey.1, hkey.2]
      · rw [if_neg hkey] at hwriter
        obtain ⟨hold, hstatus⟩ := statusAt_of_writer hwriter
        refine .inr (.inr ⟨hold, ?_, .inl rfl⟩)
        rw [hstatus, ← hstore]
        exact hpending

/-- A turn of a procedure. -/
theorem Attended.turn (h : Attended w) (hget : w.ops.get? i = some p)
    (hturn : Service.Turn i p w r) : Attended (Service.put i r) := by
  cases hturn with
  | still heq =>
    subst heq
    exact h.quiet hget (Service.Same.refl w) (h.fine i p hget) rfl
  | quiet hsame hfine hsilent hattempt => exact h.quiet hget hsame hfine hattempt
  | rejects hsame hphase => exact h.fails hget hsame (by rw [hphase]; exact trivial)
  | deposits call hphase heq =>
    rw [hphase] at hget
    rw [heq]
    exact h.deposits hget
  | emits call write next hphase hsame hplain =>
    refine h.put hget hsame.ops hsame.begun hplain.fine
      (fun n hn => by rw [hsame.history]; exact mem_cons_of_mem _ hn)
      fun t m j hwriter hpending => ?_
    rw [hsame.history] at hwriter
    rw [hsame.statusAt] at hpending
    have hidle : p.attempt = none := by rw [hphase]; rfl
    exact .inr (.inr ⟨hwriter, hpending, .inl (hplain.idle.trans hidle.symm)⟩)

/-- A status is written: the row is no longer `pending`, or it is noted that it may be. -/
theorem Attended.settled (h : Attended w) {call : StatusCall} {next : Next}
    (hget : w.ops.get? i = some (.settling call next)) (response : Response) :
    Attended (Service.put i (Service.advance i response (.settling call next) w)) := by
  have hfine : call.status ≠ .pending := h.fine i _ hget
  obtain ⟨write, hphase, ⟨-, -, hstatus, hhistory, hops, hbegun⟩ | ⟨-, -, hsame⟩⟩ :=
    Service.settle_cases i response call next w
  · refine h.put hget hops hbegun (by rw [hphase]; exact hfine)
      (fun n hn => by rw [hhistory]; exact hn) fun t m j hwriter hpending => ?_
    rw [hhistory] at hwriter
    rw [hstatus] at hpending
    by_cases hkey : t = trim call.threadId ∧ m = trim call.messageId
    · rw [if_pos hkey, some_inj] at hpending
      exact absurd hpending hfine
    · rw [if_neg hkey] at hpending
      refine .inr (.inr ⟨hwriter, hpending, .inr (.inr fun hattempt => hkey ?_)⟩)
      cases next with
      | send send isGroup =>
        have hpair := some_inj.1 hattempt
        exact ⟨(congrArg Prod.fst hpair).symm, (congrArg Prod.snd hpair).symm⟩
      | deliveryAck acks => exact nomatch hattempt
      | commitAck => exact nomatch hattempt
      | frame f n todo => exact nomatch hattempt
      | recovery r => exact nomatch hattempt
  · exact h.fails hget hsame (by rw [hphase]; exact hfine)

/-- **A step.** -/
theorem Attended.step (h : Attended w) (e : Event) : Attended (w.step e) := by
  cases Service.step_cases w e with
  | turn i p r hget hturn heq =>
    rw [heq]
    exact h.turn hget hturn
  | settles i response call next hevent hget heq =>
    rw [heq]
    exact h.settled hget response
  | starts r hsame hfine hsilent heq =>
    -- the number of a new procedure is none of those under way
    have hnew : ∀ j q, w.ops.get? j = some q → j ≠ r.2.begun := by
      intro j q hj
      have hlt := h.begun j q hj
      rw [hsame.begun]
      omega
    have hstart : ∀ j, (start r).ops.get? j =
        if j = r.2.begun then some r.1 else w.ops.get? j := by
      intro j
      show (r.2.ops.set r.2.begun r.1).get? j = _
      rw [OrdMap.get?_set, hsame.ops]
    rw [heq]
    refine ⟨fun j q hj => ?_, fun j q hj => ?_, fun t m j hwriter hpending => ?_⟩
    · rw [hstart] at hj
      by_cases hij : j = r.2.begun
      · rw [if_pos hij, some_inj] at hj
        rw [← hj]
        exact hfine
      · rw [if_neg hij] at hj
        exact h.fine j q hj
    · show j < r.2.begun + 1
      rw [hstart] at hj
      by_cases hij : j = r.2.begun
      · omega
      · rw [if_neg hij] at hj
        have hlt := h.begun j q hj
        have hsame := hsame.begun
        omega
    · have hold : writerOf t m w.history = some j := by
        rw [← hsame.history]
        exact hwriter
      have hwas : w.store.statusAt t m = some .pending := by
        rw [← hsame.statusAt]
        exact hpending
      rcases h.settles t m j hold hwas with ⟨q, hq, hattempt⟩ | ⟨how, hfailed⟩
      · exact .inl ⟨q, by rw [hstart, if_neg (hnew j q hq)]; exact hq, hattempt⟩
      · refine .inr ⟨how, ?_⟩
        show failed j how ∈ r.2.history
        rw [hsame.history]
        exact hfailed
  | rewrites store heq =>
    rw [heq]
    refine ⟨h.fine, h.begun, fun t m j hwriter hpending => ?_⟩
    obtain ⟨hold, hstatus⟩ := statusAt_of_writer hwriter
    rcases h.settles t m j hold (hstatus.trans hpending) with hgoing | ⟨how, hfailed⟩
    · exact .inl hgoing
    · exact .inr ⟨how, mem_rewrite hfailed⟩
  | stays hsame =>
    refine ⟨fun j q hj => ?_, fun j q hj => ?_, fun t m j hwriter hpending => ?_⟩
    · rw [hsame.ops] at hj
      exact h.fine j q hj
    · rw [hsame.ops] at hj
      rw [hsame.begun]
      exact h.begun j q hj
    · rw [hsame.history] at hwriter ⊢
      rw [hsame.statusAt] at hpending
      rw [hsame.ops]
      exact h.settles t m j hwriter hpending
  | dies heq =>
    rw [heq]
    refine ⟨fun j q hj => absurd hj (by simp [died]),
      fun j q hj => absurd hj (by simp [died]), fun t m j hwriter hpending => ?_⟩
    have hlost : w.died.history = ((w.ops.entries.filter fun op =>
        decide (op.2 ≠ .returned ∧ op.2 ≠ .threw)).map fun op => (op.1, Failure.lost)).map
          (fun f => failed f.1 f.2) ++ w.history := by
      rw [List.map_map]
      rfl
    rw [hlost, writerOf_failed] at hwriter
    rw [hlost]
    rcases h.settles t m j hwriter hpending with ⟨q, hq, hattempt⟩ | ⟨how, hfailed⟩
    · -- what was under way is lost
      refine .inr ⟨.lost, mem_append.2 (.inl (mem_map.2 ⟨(j, .lost), ?_, rfl⟩))⟩
      refine mem_map.2 ⟨(j, q), mem_filter.2 ⟨OrdMap.mem_entries_iff.2 hq, ?_⟩, rfl⟩
      refine decide_eq_true ⟨fun hreturned => ?_, fun hthrew => ?_⟩
      · have hreturned : q = .returned := hreturned
        rw [hreturned] at hattempt
        cases hattempt
      · have hthrew : q = .threw := hthrew
        rw [hthrew] at hattempt
        cases hattempt
    · exact .inr ⟨how, mem_append.2 (.inr hfailed)⟩

theorem attended_fresh (ownerAccountId : String) (store : Store c) :
    Attended (fresh ownerAccountId store) :=
  ⟨fun _ _ h => absurd h (by simp [fresh]), fun _ _ h => absurd h (by simp [fresh]),
    fun _ _ _ h => nomatch h⟩

/-- **Nothing is `pending` for nothing.** In every run, a row that a send has deposited and that is
still `pending` is one whose send is under way, up to its first status, or has failed: rejected to
its caller, lost with the process, or with its status unwritten. -/
theorem run_settles (c : Collation) (ownerAccountId : String) (store : Store c)
    (events : List Event) : Settles ((fresh ownerAccountId store).after events) := by
  have hattended : Attended (Runs.run step (fresh ownerAccountId store) events) :=
    Runs.invariant_all step (fun _ e h => h.step e) events _
      (attended_fresh ownerAccountId store)
  exact hattended.settles

end Runs

/-! ### A delivery that throws -/

/-- Nothing can be dispatched. -/
def offline : DeliveryParts := ⟨true, "", .threw false, none, .threw false⟩

/-- Alice's message cannot be delivered; then the process dies, and recovers. -/
def rejectedThenRestarted : List Event :=
  [.send hello, .advance 0 .ok, .advance 0 .ok, .advance 0 .ok, .deliver 0 offline, .crash, .recover,
    .advance 1 .ok, .advance 1 .ok]

/-- **A rejected message stays `pending`.** It is not tracked by anything, neither when
`sendMessage` has rejected nor after a restart. -/
theorem rejected_stays_pending : ¬ ∀ ownerAccountId (store : Store Collation.byCodePoint)
    (events : List Event), StrandsNothing ((fresh ownerAccountId store).after events) := by
  intro h
  let w := (fresh "alice" withBob).after rejectedThenRestarted
  have hrun : StrandsNothing w := h "alice" withBob rejectedThenRestarted
  have hwriter : writerOf "th_1" "m" w.history = some 0 := by decide
  have hended : w.ops.get? 0 = none := by decide
  have hpending : w.store.statusAt "th_1" "m" = some .pending := by decide
  have hidle : w.commits.has "m" = false ∧ w.memory.queueTracking.has "m" = false := by decide
  rcases hrun "th_1" "m" 0 hwriter (fun p hp => by rw [hended] at hp; exact nomatch hp)
    hpending with hcommit | hqueue
  · rw [hidle.1] at hcommit
    exact Bool.false_ne_true hcommit
  · rw [hidle.2] at hqueue
    exact Bool.false_ne_true hqueue

end RezChat.Delivery
