/-
What becomes of a failure.

The inbound pipeline keeps an opened message until its application returns, and
applies it again if the application throws. So whatever fails on the way, a
handler or a store, has to end in a throw, and only a message may end as a row
of its thread.

The handler does not keep to it. A handler that throws is one that did not
consume the payload, and a payload that was not consumed is filed as a row; the
avatar's bytes, the thread of the sender, the index, the channel and the deposits
that a join brings back are written at best effort. When an application does
keep to it is said here exactly, for one run with its fates given.
-/
import RezChat.Events.Attribution

set_option autoImplicit false

namespace RezChat.Events

open Inbox (Frame trim trimmed)
open Service
open Proc

variable {σ : Type} {svc : Services σ} {d : Deposit} {re : Reentry σ}

/-! ## The law -/

/-- Deposits that belong into their thread as a row: messages, and whatever has no
handler. -/
def Deposit.filable (d : Deposit) : Bool :=
  match d.kind with
  | some k => decide (k = .message)
  | none => true

/-- A row is filed for something that is no message. -/
def misfiling : Deposit × Action → Bool
  | (d, .persisting _ _) => !d.filable
  | _ => false

def misfilings (s : State σ) : Nat := s.journal.countP misfiling

/-- **The law of failures**, for one run of an application: if it returns, nothing
has failed, and however it ends, nothing but messages was filed. -/
def Retried (p : Proc (State σ) Verdict) : Moment (State σ) := fun fates s =>
  Ends p (fun v _ s' => misfilings s' = misfilings s ∧ v.failed = false)
    (fun _ s' => misfilings s' = misfilings s) (fun _ s' => misfilings s' = misfilings s) fates s

/-! ## When it is kept -/

/-- A row is filed, and the index and the channel take note of it. -/
def RowKept (svc : Services σ) (d : Deposit) (r : Resolved) (admission : Admission) :
    Moment (State σ) :=
  After (now svc) fun nowMs =>
  After (note d (.persisting (rowSender d r) admission.verified)) fun _ =>
  After (inWorld (svc.upsertDepositedMessage (rowOf d r nowMs))) fun _ =>
  After (attempt (svc.upsertFromMessage r.threadId (canonicalMessageId d) nowMs
    (rowOf d r nowMs).text)) fun indexed =>
  After (acknowledge svc d r admission nowMs) fun _ =>
  After (observeChannel svc d r admission.verified) fun observed _ _ =>
    indexed = true ∧ observed = true

/-- The handler of a kind, as it is entered. -/
def entered (svc : Services σ) (re : Reentry σ) (d : Deposit) (r : Resolved) (verified : Bool)
    (k : PayloadKind) (p : Payload) : Proc (State σ) Answer := do
  note d (.dispatching k (extractPayloadSender svc (dispatchCtx d r) k p) verified)
  dispatchEntry svc re k p (dispatchCtx d r)

/-- The handler neither throws nor passes over a failure, it files nothing on the
way that is no message, and unless it is handed a message it consumes what it is
handed, or there is no thread to file it in. -/
def HandlerKept (svc : Services σ) (re : Reentry σ) (d : Deposit) (r : Resolved)
    (admission : Admission) (k : PayloadKind) (p : Payload) : Moment (State σ) :=
  fun fates s =>
    Ends (entered svc re d r admission.verified k p)
      (fun answer fates' s' => misfilings s' = misfilings s ∧
        (r.failed = false ∧ answer.failed = false) ∧
        (answer.consumed = true ∨ r.threadId = "" ∨
          (k = .message ∧ RowKept svc d r admission fates' s')))
      (fun _ _ => False) (fun _ s' => misfilings s' = misfilings s) fates s

/-- What has to go well once a deposit has passed the gates. -/
def AdmittedKept (svc : Services σ) (re : Reentry σ) (d : Deposit) (r : Resolved)
    (admission : Admission) : Moment (State σ) := fun fates s =>
  match d.kind, d.payload with
  | some k, some p =>
    if svc.recordClass k p = true then HandlerKept svc re d r admission k p fates s
    else r.failed = false
  | _, _ => r.failed = false ∧ (r.threadId = "" ∨ RowKept svc d r admission fates s)

/-- **The application is undisturbed**: the thread of the deposit could be made if
it had to be, and what follows the gates goes well. -/
def Undisturbed (svc : Services σ) (re : Reentry σ) (redelivering : Bool) (d : Deposit) :
    Moment (State σ) := fun fates s =>
  handled d = true →
    After (resolveThread svc d) (fun r =>
      After (passGates svc redelivering d r) fun passed fates s =>
        match passed with
        | .error _ => r.failed = false
        | .ok admission => AdmittedKept svc re d r admission fates s) fates s

/-! ## Invariants of the count -/

theorem misfilings_cons (s : State σ) (e : Deposit × Action) :
    misfilings { s with journal := e :: s.journal } =
      misfilings s + if misfiling e = true then 1 else 0 := by
  rw [misfilings, misfilings, List.countP_cons]

/-- An action that files nothing, or files a message, does not count. -/
theorem misfilings_noted {e : Deposit × Action} (h : misfiling e = false) (s : State σ) :
    misfilings { s with journal := e :: s.journal } = misfilings s := by
  rw [misfilings_cons, h]
  simp

theorem misfiling_of_filable {d : Deposit} (h : d.filable = true) (a : Action) :
    misfiling (d, a) = false := by
  cases a with
  | persisting account verified => rw [misfiling, h]; rfl
  | _ => rfl

/-- Until a deposit is filed the count stays as it is. -/
theorem gatekeeper_misfilings (svc : Services σ) (d : Deposit) (n : Nat) :
    Gatekeeper svc d (fun s : State σ => misfilings s = n) where
  world _ _ hs := hs
  deferred _ _ hs := hs
  appended s _ hs _ := (misfilings_noted rfl s).trans hs
  flagged s _ hs _ := (misfilings_noted rfl s).trans hs

/-- The filing of a message does not count. -/
theorem keeper_misfilings (svc : Services σ) {d : Deposit} (h : d.filable = true) (n : Nat) :
    Keeper svc d (fun s : State σ => misfilings s = n) where
  world _ _ hs := hs
  noted s a hs _ := (misfilings_noted (misfiling_of_filable h a) s).trans hs
  deferred _ _ hs := hs

/-- Nothing is ever taken back. -/
theorem ledger_misfilings (svc : Services σ) (n : Nat) :
    Ledger svc (fun _ => True) (fun s : State σ => n ≤ misfilings s) where
  keeper d _ :=
    { world := fun _ _ hs => hs
      noted := fun s a hs _ => by rw [misfilings_cons]; omega
      deferred := fun _ _ hs => hs }
  held _ _ _ _ _ _ _ := trivial
  flushed _ _ hs := hs
  fact _ _ := trivial

/-! ## Runs whose count is too high -/

section Runs

variable {α : Type} {n : Nat} {fates : List Fate} {s : State σ} {r : Resolved}
  {admission : Admission}

/-- What the law asks of a run of an application that starts with the count `n`. -/
def Sound (n : Nat) (p : Proc (State σ) Verdict) : Moment (State σ) :=
  Ends p (fun v _ s' => misfilings s' = n ∧ v.failed = false) (fun _ s' => misfilings s' = n)
    (fun _ s' => misfilings s' = n)

/-- The count never falls, so a run cannot end with less than it started with. -/
theorem ends_overrun {p : Proc (State σ) α} {R : α → Moment (State σ)}
    (hp : Holds (fun s => n + 1 ≤ misfilings s) p)
    (hs : n + 1 ≤ misfilings s) (hR : ∀ a f s', R a f s' → misfilings s' = n) :
    Ends p R (fun _ s' => misfilings s' = n) (fun _ s' => misfilings s' = n) fates s ↔
      False := by
  have hexceeds : ∀ s' : State σ, n + 1 ≤ misfilings s' → ¬ misfilings s' = n := by
    intro s' h
    omega
  refine (hp.ends_iff hs ?_ ?_ ?_).trans (ends_false p)
  · exact fun a _ s' hs' f => iff_false_intro fun h => hexceeds s' hs' (hR a f s' h)
  · exact fun s' hs' f => iff_false_intro (hexceeds s' hs')
  · exact fun s' hs' f => iff_false_intro (hexceeds s' hs')

variable {E D : Moment (State σ)}

theorem ends_note {a : Action} {R : Unit → Moment (State σ)} :
    Ends (note d a) R E D fates s = R () fates { s with journal := (d, a) :: s.journal } :=
  rfl

theorem ends_now {R : Int → Moment (State σ)} :
    Ends (now svc) R E D fates s = R (svc.clock s.world) fates s := rfl

/-! ## Filing -/

/-- The filing of a message fails only at the index and at the channel. -/
theorem persist_sound_of_filable (hd : d.filable = true) (ha : Admitted svc d admission.verified)
    (hr : Placed svc d r) (hs : misfilings s = n) (ht : r.threadId ≠ "") :
    Sound n (persist svc d r admission false) fates s ↔ RowKept svc d r admission fates s := by
  have hK := keeper_misfilings svc hd n
  have hI := hK.handling.content r
  have kept : ∀ {P : Prop}, P → (P ↔ True) := fun h => iff_true_intro h
  unfold Sound persist RowKept After
  rw [if_neg ht, ends_bind, ends_now, ends_now, ends_bind, ends_note, ends_note,
    ends_bind]
  have hs' := hI.noted s (.persisting (rowSender d r) admission.verified) hs ⟨ha, r, hr, rfl⟩
  -- from here on the count stays as it is, and the answers are collected
  refine (hK.keeps_inWorld _).ends_iff hs' ?_ (fun _ h _ => kept h)
    (fun _ h _ => kept h)
  intro _ _ s₁ hs₁ f₁
  rw [ends_bind]
  refine (keeps_attempt (hK.keeps_inWorld _)).ends_iff hs₁ ?_ (fun _ h _ => kept h)
    (fun _ h _ => kept h)
  intro indexed _ s₂ hs₂ f₂
  rw [ends_bind]
  refine (keeps_acknowledge hI ha _).ends_iff hs₂ ?_ (fun _ h _ => kept h)
    (fun _ h _ => kept h)
  intro _ _ s₃ hs₃ f₃
  rw [ends_bind]
  refine (keeps_observeChannel hI ha hr).ends_iff hs₃ ?_ (fun _ h _ => kept h)
    (fun _ h _ => kept h)
  intro observed _ s₄ hs₄ f₄
  show misfilings s₄ = n ∧ (false || !indexed || !observed) = false ↔ _
  simp [hs₄]

/-- Whatever else is filed counts as soon as its filing begins. -/
theorem persist_sound_of_not_filable (hd : d.filable = false)
    (ha : Admitted svc d admission.verified) (hr : Placed svc d r) (hs : misfilings s = n)
    (ht : r.threadId ≠ "") (failed : Bool) :
    Sound n (persist svc d r admission failed) fates s ↔ False := by
  have hK := (ledger_misfilings svc (n + 1)).keeper d trivial
  have hI := hK.handling.content r
  unfold Sound persist
  rw [if_neg ht, ends_bind, ends_now, ends_bind, ends_note]
  refine ends_overrun ?_ ?_ (fun _ _ _ h => h.1)
  · refine keeps_seq (hK.keeps_inWorld _) fun _ => ?_
    refine keeps_seq (keeps_attempt (hK.keeps_inWorld _)) fun indexed => ?_
    refine keeps_seq (keeps_acknowledge hI ha _) fun _ => ?_
    exact keeps_last (keeps_observeChannel hI ha hr)
  · rw [misfilings_cons, misfiling, hd, hs]
    simp

/-- **When filing keeps the law.** A failure from before can only have come with a
deposit that has no thread, or is no message. -/
theorem persist_sound (ha : Admitted svc d admission.verified) (hr : Placed svc d r)
    (hs : n ≤ misfilings s) {failed : Bool}
    (hf : failed = true → r.threadId ≠ "" → d.filable = false) :
    Sound n (persist svc d r admission failed) fates s ↔
      misfilings s = n ∧ failed = false ∧
        (r.threadId = "" ∨ (d.filable = true ∧ RowKept svc d r admission fates s)) := by
  by_cases hn : misfilings s = n
  · by_cases ht : r.threadId = ""
    · have hp : persist svc d r admission failed = pure ⟨.unrouted r.refused, failed⟩ := by
        rw [persist, if_pos ht]
      rw [hp]
      show misfilings s = n ∧ failed = false ↔ _
      simp [ht]
    · cases hd : d.filable with
      | false =>
        rw [persist_sound_of_not_filable hd ha hr hn ht]
        simp [ht]
      | true =>
        cases failed with
        | true => exact absurd (hd.symm.trans (hf rfl ht)) (by decide)
        | false =>
          rw [persist_sound_of_filable hd ha hr hn ht]
          simp [hn, ht]
  · -- the count was too high before
    have hI := ((ledger_misfilings svc (n + 1)).keeper d trivial).handling.content r
    have hover : Sound n (persist svc d r admission failed) fates s ↔ False :=
      ends_overrun (n := n) (R := fun (v : Verdict) _ s' => misfilings s' = n ∧ v.failed = false)
        (keeps_persist hI ha hr failed) (show n + 1 ≤ misfilings s by omega) (fun _ _ _ h => h.1)
    refine hover.trans ?_
    simp [hn]

/-! ## Dispatch -/

variable {k : PayloadKind} {verified : Bool}

/-- A handler that throws has not consumed the payload. -/
theorem ends_dispatch {p : Payload}
    {R : Answer → Moment (State σ)} :
    Ends (dispatch svc re d r verified k p) R E D =
      Ends (entered svc re d r verified k p) R (R ⟨false, true⟩) D := by
  unfold dispatch entered
  rw [ends_bind, ends_bind]
  funext fates s
  rw [ends_note, ends_note, ends_tryCatch]
  rfl

/-- A message has no handler. -/
theorem ends_entered_message {p : Payload}
    {R : Answer → Moment (State σ)} :
    Ends (entered svc re d r verified .message p) R E D fates s =
      R ⟨false, false⟩ fates { s with
        journal := (d, .dispatching .message
          (extractPayloadSender svc (dispatchCtx d r) .message p) verified) :: s.journal } :=
  rfl

theorem filable_of_kind (hk : d.kind = some k) :
    d.filable = decide (k = .message) := by
  rw [Deposit.filable, hk]

theorem keeps_entered {I : State σ → Prop} (hI : KeepsHandling svc d I) (hre : re.KeepsInv svc I)
    {p : Payload} (ha : Admitted svc d verified)
    (hr : Placed svc d r) (hk : d.kind = some k) (hp : d.payload = some p)
    (hrec : svc.recordClass k p = true) :
    Holds I (entered svc re d r verified k p) := by
  unfold entered
  refine keeps_noting (fun s hs => (hI.content r).noted s _ hs
    ⟨ha, hk, p, r, hp, hrec, hr, rfl⟩) fun s hs hnoted => ?_
  exact keeps_dispatchEntry hI hre hk hp r hs hnoted

/-- **When dispatch and filing keep the law.** -/
theorem applyAdmitted_sound (hre : ∀ m, re.KeepsInv svc (fun s => m ≤ misfilings s))
    (ha : Admitted svc d admission.verified) (hr : Placed svc d r)
    (hfailed : r.failed = true → r.threadId = "") (hs : misfilings s = n) :
    Sound n (applyAdmitted svc re d r admission) fates s ↔
      AdmittedKept svc re d r admission fates s := by
  have hfiled : ∀ {failed : Bool}, d.filable = true → failed = r.failed →
      failed = true → r.threadId ≠ "" → d.filable = false :=
    fun _ h h' ht => absurd (hfailed (h.symm.trans h')) ht
  unfold applyAdmitted AdmittedKept
  cases hk : d.kind with
  | none =>
    have hd : d.filable = true := by rw [Deposit.filable, hk]
    refine (persist_sound ha hr (le_of_eq hs.symm) (hfiled hd rfl)).trans ?_
    simp [hs, hd]
  | some k =>
    cases hp : d.payload with
    | none =>
      rw [Deposit.kind, hp] at hk
      exact absurd hk (by simp [getPayloadEntry])
    | some p =>
      have hd : d.filable = decide (k = .message) := filable_of_kind hk
      dsimp only
      by_cases hrec : svc.recordClass k p = true
      · rw [if_pos hrec, if_pos hrec]
        have hI := (ledger_misfilings svc n).keeper d trivial
        unfold Sound HandlerKept
        rw [ends_bind, ends_dispatch, hs]
        by_cases hm : k = .message
        · subst hm
          have hd' : d.filable = true := by rw [hd]; rfl
          rw [ends_entered_message, ends_entered_message, if_neg Bool.false_ne_true]
          refine (persist_sound ha hr (le_of_eq ?_) (hfiled hd' (Bool.or_false _))).trans ?_
          · rw [misfilings_noted (misfiling_of_filable hd' _)]
            exact hs.symm
          · simp [hd']
        · have hd' : d.filable = false := by rw [hd]; exact decide_eq_false hm
          refine (keeps_entered hI.handling (hre n) ha hr hk hp hrec).ends_iff (le_of_eq hs.symm) ?_ ?_
            (fun _ _ _ => .rfl)
          · -- the handler has answered
            intro answer _ s' hs' f
            by_cases hc : answer.consumed = true
            · rw [if_pos hc]
              show misfilings s' = n ∧ (r.failed || answer.failed) = false ↔ _
              simp [hc]
            · rw [if_neg hc]
              refine (persist_sound ha hr hs' (fun _ _ => hd')).trans ?_
              simp [hc, hd', hm]
          · -- the handler threw
            intro s' hs' f
            refine (persist_sound ha hr hs' (fun _ _ => hd')).trans ?_
            simp
      · rw [if_neg hrec, if_neg hrec]
        show misfilings s = n ∧ r.failed = false ↔ _
        simp [hs]

/-! ## The handler -/

/-- **When the handling of a deposit keeps the law.** -/
theorem applyDeposit_sound (hre : ∀ m, re.KeepsInv svc (fun s => m ≤ misfilings s))
    (redelivering : Bool) (hs : misfilings s = n) :
    Sound n (applyDeposit svc re redelivering d) fates s ↔
      Undisturbed svc re redelivering d fates s := by
  have kept : ∀ {P : Prop}, P → (P ↔ True) := fun h => iff_true_intro h
  have hI := gatekeeper_misfilings svc d n
  unfold Undisturbed applyDeposit
  split
  · rename_i hh
    refine Iff.trans ?_ (forall_prop_of_true hh).symm
    unfold Sound After
    rw [ends_bind]
    refine (keeps_resolveThread hI.lookup).ends_iff hs ?_ (fun _ h _ => kept h) (fun _ h _ => kept h)
    intro r hr s₁ hs₁ f₁
    rw [ends_bind]
    have hgates := keeps_passGates (P := True) redelivering hh
      (fun _ => (keeps_evaluateGroupGate redelivering r.thread).mono fun _ _ _ => trivial)
      (fun _ => hI.deferred) (fun _ => hI.admission r.threadId)
    refine hgates.ends_iff hs₁ ?_ (fun _ h _ => kept h) (fun _ h _ => kept h)
    intro passed hpassed s₂ hs₂ f₂
    cases passed with
    | error disposition =>
      show misfilings s₂ = n ∧ r.failed = false ↔ _
      simp [hs₂]
    | ok admission =>
      obtain ⟨hown, -, hadm⟩ := hpassed admission rfl
      exact applyAdmitted_sound hre hadm ⟨hr.found, hown⟩ hr.failed hs₂
  · rename_i hh
    show misfilings s = n ∧ false = false ↔ _
    simp [hs, hh]

theorem handleWith_sound (hre : ∀ m, re.KeepsInv svc (fun s => m ≤ misfilings s))
    (redelivering : Bool) (hs : misfilings s = n) :
    Sound n (handleWith svc re redelivering d) fates s ↔
      Undisturbed svc re redelivering d fates s := by
  refine Iff.trans (iff_of_eq ?_) (applyDeposit_sound hre redelivering hs)
  have noted : ∀ (v : Verdict) (s' : State σ),
      misfilings { s' with journal := (d, .settled v) :: s'.journal } = misfilings s' :=
    fun v s' => misfilings_noted rfl s'
  unfold Sound handleWith
  rw [ends_bind]
  refine congrArg (fun R => Ends (applyDeposit svc re redelivering d) R _ _ fates s) ?_
  funext v f s'
  rw [ends_bind, ends_note]
  exact congrArg (fun i => i = n ∧ v.failed = false) (noted v s')

end Runs

/-- A reaction of `alice` in the thread she has with us. -/
def aliceReaction (b64 : String) : Option Payload :=
  if b64 = "reaction" then
    some { kind := some "rez.chat.reaction.v1", threadId := some "th_alice" }
  else none

/-- The small server, whose reaction handler throws. -/
def faultyServer : Services Unit :=
  { smallServer aliceReaction with
    handleIncomingReaction := fun _ _ _ => Proc.throw }

/-- Every held deposit is applied undisturbed, one after the other, and none of the
applications throws. -/
def HeldKept (svc : Services σ) : List Deposit → Moment (State σ)
  | [], _, _ => True
  | d :: bucket, fates, s =>
    Undisturbed svc (heldReentry svc) true d fates s ∧
      Ends (reapply svc d) (fun _ => HeldKept svc bucket) (fun _ _ => False)
        (fun _ _ => True) fates s

end RezChat.Events
