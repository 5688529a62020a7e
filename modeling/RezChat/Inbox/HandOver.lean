/-
Exactly-once hand-over.

The pipeline updates five fallible stores one after another. What must hold of
it whatever fails on the way is a property of its journal: a deposit is reported
durable only with its message staged or applied, it is marked processed only
then, a marked deposit is not decrypted again, and an outbox entry goes only
after its message was applied or its failure budget was spent.

Everything rests on one fact about the outbox: a staged entry is really there.
`outbox.stage` answers `false` both for an entry that already exists and for a
deposit it has no key for, and the pipeline does not look at the answer. So the
argument needs every submitted frame to carry an identity the outbox can file it
under, and `submit_unaddressed` shows what happens to one that does not.
-/
import RezChat.Lib.Journal
import RezChat.Inbox.Pipeline

set_option autoImplicit false

namespace RezChat.Inbox

open Pipeline ProcessedLog Event Bool Journal Throughout
open List Option OrdMap Proc

/-! ## The law of the journal -/

/-- What has to have happened before each entry of the journal. -/
def Event.Allowed (past : List Event) : Event → Prop
  | .reported id result message held => result.durable = true →
      if result.alreadyProcessed = true then ∃ m h, marking id m h ∈ past
      else message = true → held = true ∨ applied id ∈ past
  | .marking id message held => message = true → held = true ∨ applied id ∈ past
  | .decrypting id marked => marked = true → past.head? = some (.lookupFailed id)
  | .unstaging id => past.head? = some (.applied id) ∨
      ∃ bounds n age, past.head? = some (.exhausted id bounds n age)
  | .exhausted _ bounds n age => (overAttempts bounds n || overAge bounds n age) = true
  | .applied _ => True
  | .lookupFailed _ => True

/-- Every entry was allowed when it was made. -/
def Lawful (journal : List Event) : Prop :=
  Throughout (fun e past => e.Allowed past) journal

/-! ## The invariant -/

section Invariant

variable {μ ρ : Type}

/-- The frame carries an identity the stores can file it under: both halves are
there, the outbox record has no inherited property of that name, and the
identity is one of `ids`. -/
def Identified (ids : DepositId → Prop) (frame : Frame) : Prop :=
  ids (depositIdentity frame) ∧ (depositIdentity frame).mailboxId ≠ "" ∧
    (depositIdentity frame).dedupId ≠ "" ∧
    (depositIdentity frame).dedupId ∉ ApplyOutbox.inheritedNames

/-- Every retained frame is identified. -/
def Retained (ids : DepositId → Prop) (pending : OrdMap String PendingEntry) : Prop :=
  ∀ k entry, pending.get? k = some entry → Identified ids entry.frame

/-- The invariant of the pipeline between any two of its awaits. -/
structure Sound (ids : DepositId → Prop) (s : PipelineState μ ρ) : Prop where
  lawful : Lawful s.journal
  marked : ∀ id, ids id → Marked s.log id →
    ∃ m h, marking id m h ∈ s.journal
  pending : Retained ids s.pending

variable {ids : DepositId → Prop} {s : PipelineState μ ρ}

section

variable (h : Sound ids s)
include h

theorem Sound.note {e : Event} (he : e.Allowed s.journal) :
    Sound ids (s.noted e) where
  lawful := ⟨he, h.lawful⟩
  marked id hid hm := by
    obtain ⟨m, held, hmem⟩ := h.marked id hid hm
    exact ⟨m, held, mem_cons_of_mem _ hmem⟩
  pending := h.pending

theorem Sound.setOutbox (kv : OutboxKv μ) :
    Sound ids { s with outbox := kv } :=
  ⟨h.lawful, h.marked, h.pending⟩

theorem Sound.setWorld (w : ρ) : Sound ids { s with world := w } :=
  ⟨h.lawful, h.marked, h.pending⟩

theorem Sound.withMarker
    (inj : ∀ a b, ids a → ids b → logKey a = logKey b → a = b)
    {id : DepositId} (hid : ids id) {m held : Bool} (nowMs : Int)
    (hm : marking id m held ∈ s.journal) :
    Sound ids { s with log := withMarker s.log id nowMs } where
  lawful := h.lawful
  marked id' hid' hmark := by
    rcases marked_withMarker.1 hmark with hk | hold
    · rw [inj id' id hid' hid hk]
      exact ⟨m, held, hm⟩
    · exact h.marked id' hid' hold
  pending := h.pending

theorem Sound.withoutMarker (id : DepositId) :
    Sound ids { s with log := withoutMarker s.log id } where
  lawful := h.lawful
  marked id' hid' hm := h.marked id' hid' (marked_withoutMarker hm)
  pending := h.pending

theorem Sound.setPending {p : OrdMap String PendingEntry}
    (hp : Retained ids p) : Sound ids { s with pending := p } :=
  ⟨h.lawful, h.marked, hp⟩

theorem Sound.restart (wake : ρ → ρ) :
    Sound ids (restart wake s) :=
  ⟨h.lawful, h.marked, fun k entry he => by simp [Pipeline.restart] at he⟩

end

theorem sound_fresh (world : ρ) : Sound ids (fresh (μ := μ) world) where
  lawful := trivial
  marked _ _ h := by simp [Marked, fresh] at h
  pending _ _ h := by simp [fresh] at h

/-! ## Rules for the three places a call happens -/

variable {α : Type} {R : α → PipelineState μ ρ → Prop} {E D : PipelineState μ ρ → Prop}

/-- A collaborator may do anything to its own state, and nothing to ours. -/
theorem wp_inWorld {p : Proc ρ α} (hR : ∀ a w, R a { s with world := w })
    (hE : ∀ w, E { s with world := w }) (hD : ∀ w, D { s with world := w }) :
    wp (inWorld p) R E D s :=
  wp_zoom (wp_any (fun a w => hR a w) hE hD)

theorem wp_note {e : PipelineState μ ρ → Event} {R : Unit → PipelineState μ ρ → Prop}
    (h : R () (s.noted (e s))) : wp (note e) R E D s :=
  wp_modify h

/-- The two stores see the identity of an identified frame as it is. -/
theorem Identified.outboxIds {frame : Frame} (h : Identified ids frame) :
    ApplyOutbox.ids (depositIdentity frame).mailboxId (depositIdentity frame).dedupId =
      some (depositIdentity frame) :=
  ApplyOutbox.ids_self (trim_mailboxId frame) (trim_dedupId frame) h.2.1 h.2.2.1

theorem Identified.logIds {frame : Frame} (h : Identified ids frame) :
    ProcessedLog.ids (depositIdentity frame).mailboxId (depositIdentity frame).dedupId =
      some (depositIdentity frame) :=
  ids_self (trim_mailboxId frame) (trim_dedupId frame) h.2.1 h.2.2.1

end Invariant

/-! ## One deposit -/

section Deposit

variable {μ ρ : Type} {ids : DepositId → Prop} {s₀ s : PipelineState μ ρ} {frame : Frame}
  {c : Collaborators μ ρ}

/-- The lookup: a miss means that no marker stands, unless the lookup itself
failed. -/
theorem alreadyProcessed_spec (hid : Identified ids frame) (h : Sound ids s) :
    wp (alreadyProcessed (depositIdentity frame))
      (fun already s' => Sound ids s' ∧ s'.pending = s.pending ∧
        if already = true then ∃ m held, marking (depositIdentity frame) m held ∈ s'.journal
        else Marked s'.log (depositIdentity frame) →
          s'.journal.head? = some (.lookupFailed (depositIdentity frame)))
      (fun _ => False) (Sound ids) s := by
  rw [alreadyProcessed, if_neg hid.2.2.1]
  refine wp_tryCatch (wp_zoom (has_spec ?_ ?_ ?_ h))
  · intro hn
    rw [hid.logIds] at hn
    exact absurd hn (some_ne_none _)
  · intro id hsome
    rw [hid.logIds, some_inj] at hsome
    subst hsome
    refine ⟨h, rfl, ?_⟩
    by_cases hm : s.log.processed.has (key (depositIdentity frame)) = true
    · rw [if_pos hm]
      exact h.marked _ hid.1 hm
    · rw [if_neg hm]
      exact fun hm' => absurd hm' hm
  · -- the failed lookup is a miss
    refine wp_bind (wp_note (wp_pure ⟨h.note trivial, rfl, ?_⟩))
    rw [if_neg Bool.false_ne_true]
    exact fun _ => rfl

theorem decryptDeposit_spec (h : Sound ids s)
    (hm : Marked s.log (depositIdentity frame) →
      s.journal.head? = some (.lookupFailed (depositIdentity frame))) :
    wp (decryptDeposit c (depositIdentity frame) frame)
      (fun _ s' => Sound ids s' ∧ s'.pending = s.pending) (fun _ => False) (Sound ids) s := by
  have hn : Sound ids (s.noted (.decrypting (depositIdentity frame)
      (decide (Marked s.log (depositIdentity frame))))) :=
    h.note fun hd => hm (of_decide_eq_true hd)
  unfold decryptDeposit
  refine wp_bind (wp_note (wp_tryCatch (wp_inWorld ?_ ?_ ?_)))
  · exact fun _ w => ⟨hn.setWorld w, rfl⟩
  · exact fun w => wp_pure ⟨hn.setWorld w, rfl⟩
  · exact fun w => hn.setWorld w

/-- What is known of a deposit in the middle of `#processOne`, for a message
that was or was not staged and applied so far. -/
structure Midway (ids : DepositId → Prop) (s₀ : PipelineState μ ρ) (id : DepositId)
    (message staged userApplied : Bool) (s : PipelineState μ ρ) : Prop where
  sound : Sound ids s
  pending : s.pending = s₀.pending
  held : message = true → staged = true → ApplyOutbox.Holds s.outbox id
  applied : userApplied = true → s.journal.head? = some (.applied id)

theorem stageMessage_spec (hid : Identified ids frame) (h : Sound ids s)
    (hp : s.pending = s₀.pending) (userMessage : Option μ) (nowMs : Int) :
    wp (stageMessage (depositIdentity frame) userMessage nowMs)
      (fun staged s' =>
        Midway ids s₀ (depositIdentity frame) userMessage.isSome staged false s')
      (fun _ => False) (Sound ids) s := by
  cases userMessage with
  | none =>
    refine wp_pure ⟨h, hp, ?_, fun hf => absurd hf false_ne_true⟩
    exact fun hf => absurd hf false_ne_true
  | some m =>
    have failed : ∀ kv, Midway ids s₀ (depositIdentity frame) true false false
        { s with outbox := kv } := fun kv =>
      ⟨h.setOutbox kv, hp, fun _ hf => absurd hf false_ne_true,
        fun hf => absurd hf false_ne_true⟩
    have done : ∀ kv, ApplyOutbox.Holds kv (depositIdentity frame) →
        Midway ids s₀ (depositIdentity frame) true true false { s with outbox := kv } :=
      fun kv hk => ⟨h.setOutbox kv, hp, fun _ _ => hk,
        fun hf => absurd hf false_ne_true⟩
    rw [stageMessage]
    refine wp_tryCatch (wp_bind (wp_zoom (ApplyOutbox.stage_spec ?_ ?_ ?_
      (wp_pure (failed s.outbox)) h)))
    · intro hn
      rw [hid.outboxIds] at hn
      exact absurd hn (some_ne_none _)
    · -- already present, and not by inheritance: so it is held
      intro id hsome hpres
      rw [hid.outboxIds, some_inj] at hsome
      subst hsome
      rw [ApplyOutbox.present, or_eq_true, contains_iff_mem] at hpres
      exact wp_pure (done _ (hpres.resolve_left hid.2.2.2))
    · intro id hsome _ kv' hkv
      rw [hid.outboxIds, some_inj] at hsome
      subst hsome
      refine ⟨wp_pure (done _ ?_), wp_pure (failed kv')⟩
      rw [hkv]
      exact ApplyOutbox.holds_written_self _ _ _

theorem applyMessage_spec {id : DepositId} {staged : Bool} {userMessage : Option μ}
    (h : Midway ids s₀ id userMessage.isSome staged false s) :
    wp (applyMessage c id userMessage)
      (fun r s' => Midway ids s₀ id userMessage.isSome staged r.2 s')
      (fun _ => False) (Sound ids) s := by
  cases userMessage with
  | none => exact wp_pure h
  | some m =>
    rw [applyMessage]
    refine wp_tryCatch (wp_bind (wp_inWorld ?_ ?_ ?_))
    · intro _ w
      refine wp_bind (wp_note (wp_pure ⟨?_, h.pending, h.held, fun _ => rfl⟩))
      exact (h.sound.setWorld w).note trivial
    · exact fun w => wp_pure ⟨h.sound.setWorld w, h.pending, h.held, h.applied⟩
    · exact fun w => h.sound.setWorld w

theorem applyPlaintext_spec {id : DepositId} {message staged userApplied applied : Bool}
    (h : Midway ids s₀ id message staged userApplied s) :
    wp (applyPlaintext c frame applied)
      (fun _ s' => Midway ids s₀ id message staged userApplied s')
      (fun _ => False) (Sound ids) s := by
  unfold applyPlaintext
  refine wp_tryCatch (wp_bind (wp_inWorld ?_ ?_ ?_))
  · exact fun _ w => wp_pure ⟨h.sound.setWorld w, h.pending, h.held, h.applied⟩
  · exact fun w => wp_pure ⟨h.sound.setWorld w, h.pending, h.held, h.applied⟩
  · exact fun w => h.sound.setWorld w

/-- Removing an entry right after its message was applied, or its budget was
spent. -/
theorem markOutboxApplied_spec {id : DepositId} (h : Sound ids s)
    (hd : s.journal.head? = some (.applied id) ∨
      ∃ bounds n age, s.journal.head? = some (.exhausted id bounds n age)) :
    wp (markOutboxApplied id)
      (fun _ s' => Sound ids s' ∧ s'.pending = s.pending ∧
        s'.journal = unstaging id :: s.journal)
      (fun _ => False) (Sound ids) s := by
  have hn : Sound ids (s.noted (.unstaging id)) := h.note hd
  unfold markOutboxApplied
  refine wp_bind (wp_note (wp_tryCatch (wp_zoom
    (ApplyOutbox.markApplied_spec ?_ ?_ ?_ hn))))
  · exact ⟨hn, rfl, rfl⟩
  · exact fun _ _ => ⟨⟨hn.setOutbox _, rfl, rfl⟩, wp_pure ⟨hn.setOutbox _, rfl, rfl⟩⟩
  · exact wp_pure ⟨hn, rfl, rfl⟩

/-- Counting a failure drops no entry. -/
theorem recordOutboxFailure_spec {id : DepositId} {nowMs : Int} (h : Sound ids s) :
    wp (recordOutboxFailure id nowMs)
      (fun _ s' => Sound ids s' ∧ s'.pending = s.pending ∧ s'.journal = s.journal ∧
        ∀ id', ApplyOutbox.Holds s.outbox id' → ApplyOutbox.Holds s'.outbox id')
      (fun _ => False) (Sound ids) s := by
  unfold recordOutboxFailure
  refine wp_tryCatch (wp_zoom (ApplyOutbox.recordApplyFailure_spec ?_ ?_ h))
  · intro _ kv' hkv
    have keep : ∀ id', ApplyOutbox.Holds s.outbox id' → ApplyOutbox.Holds kv' id' := by
      intro id' hh
      rw [ApplyOutbox.holds_iff] at hh ⊢
      rwa [hkv id']
    exact ⟨⟨h.setOutbox _, rfl, rfl, keep⟩, wp_pure ⟨h.setOutbox _, rfl, rfl, keep⟩⟩
  · intro id _ _ _ kv' hkv
    have keep : ∀ id', ApplyOutbox.Holds s.outbox id' → ApplyOutbox.Holds kv' id' := by
      intro id' hh
      rw [hkv]
      exact ApplyOutbox.holds_written hh
    exact ⟨⟨h.setOutbox _, rfl, rfl, keep⟩, wp_pure ⟨h.setOutbox _, rfl, rfl, keep⟩⟩

/-- What is known once the outbox is reconciled: a message that was staged or
applied is held, or was applied. -/
structure Settled (ids : DepositId → Prop) (s₀ : PipelineState μ ρ) (id : DepositId)
    (message durable : Bool) (s : PipelineState μ ρ) : Prop where
  sound : Sound ids s
  pending : s.pending = s₀.pending
  safe : message = true → durable = true →
    ApplyOutbox.Holds s.outbox id ∨ applied id ∈ s.journal

theorem reconcile_spec {id : DepositId} {nowMs : Int} {message staged userApplied : Bool}
    (h : Midway ids s₀ id message staged userApplied s) :
    wp (reconcile id nowMs message staged userApplied)
      (fun _ s' => Settled ids s₀ id message (staged || userApplied) s')
      (fun _ => False) (Sound ids) s := by
  have happlied : userApplied = true → applied id ∈ s.journal := by
    intro hu
    have := h.applied hu
    cases hj : s.journal with
    | nil => rw [hj] at this; exact absurd this (by simp)
    | cons e past =>
      rw [hj, head?_cons, some_inj] at this
      rw [this]
      exact mem_cons_self
  rw [reconcile]
  by_cases hms : (message && staged) = true
  · rw [if_pos hms]
    rw [and_eq_true] at hms
    by_cases hu : userApplied = true
    · rw [if_pos hu]
      refine wp_imp (markOutboxApplied_spec h.sound (.inl (h.applied hu))) ?_
      rintro _ s' ⟨hs, hp, hj⟩
      refine ⟨hs, hp.trans h.pending, fun _ _ => .inr ?_⟩
      rw [hj]
      exact mem_cons_of_mem _ (happlied hu)
    · rw [if_neg hu]
      refine wp_bind (wp_imp (recordOutboxFailure_spec h.sound) ?_)
      rintro _ s' ⟨hs, hp, _, hk⟩
      exact wp_pure ⟨hs, hp.trans h.pending,
        fun hm _ => .inl (hk id (h.held hm hms.2))⟩
  · rw [if_neg hms]
    refine wp_pure ⟨h.sound, h.pending, fun hm hd => ?_⟩
    rcases or_eq_true_iff.1 hd with hst | hu
    · exact absurd (by rw [hm, hst]; rfl) hms
    · exact .inr (happlied hu)

theorem markProcessed_spec
    (inj : ∀ a b, ids a → ids b → logKey a = logKey b → a = b)
    (hid : Identified ids frame) {nowMs : Int} {message durable should : Bool}
    (hshould : should = true → message = true → durable = true)
    (h : Settled ids s₀ (depositIdentity frame) message durable s) :
    wp (markProcessed (depositIdentity frame) nowMs message should)
      (fun _ s' => Settled ids s₀ (depositIdentity frame) message durable s')
      (fun _ => False) (Sound ids) s := by
  rw [markProcessed]
  by_cases hm : (depositIdentity frame).dedupId ≠ "" ∧ should = true
  · rw [if_pos hm]
    have hn : Sound ids (s.noted (.marking (depositIdentity frame) message
        (decide (ApplyOutbox.Holds s.outbox (depositIdentity frame))))) :=
      h.sound.note fun hmsg => (h.safe hmsg (hshould hm.2 hmsg)).imp decide_eq_true id
    have keep : ∀ {s' : PipelineState μ ρ}, Sound ids s' → s'.pending = s.pending →
        s'.outbox = s.outbox → (∀ e ∈ s.journal, e ∈ s'.journal) →
        Settled ids s₀ (depositIdentity frame) message durable s' := by
      intro s' hs hp ho hj
      refine ⟨hs, hp.trans h.pending, fun hmsg hd => ?_⟩
      rw [ho]
      exact (h.safe hmsg hd).imp id (hj _)
    have hj : ∀ e ∈ s.journal, e ∈ (s.noted (.marking (depositIdentity frame) message
        (decide (ApplyOutbox.Holds s.outbox (depositIdentity frame))))).journal :=
      fun e he => mem_cons_of_mem _ he
    refine wp_bind (wp_note (wp_tryCatch (wp_zoom
      (mark_spec ?_ ?_ ?_ hn))))
    · exact fun _ => keep hn rfl rfl hj
    · intro id hsome
      rw [hid.logIds, some_inj] at hsome
      subst hsome
      have hmk := hn.withMarker inj hid.1 nowMs mem_cons_self
      exact ⟨keep hmk rfl rfl hj, wp_pure (keep hmk rfl rfl hj)⟩
    · exact wp_pure (keep hn rfl rfl hj)
  · rw [if_neg hm]
    exact wp_pure h

/-- **After the peer link has answered.** Whatever fails on the way, the report
is lawful. -/
theorem processStatus_spec
    (inj : ∀ a b, ids a → ids b → logKey a = logKey b → a = b)
    (hid : Identified ids frame) (nowMs : Int) (status : Option (Status μ))
    (h : Sound ids s) (hp : s.pending = s₀.pending) :
    wp (processStatus c (depositIdentity frame) frame nowMs status)
      (fun _ s' => Sound ids s' ∧ s'.pending = s₀.pending) (fun _ => False)
      (Sound ids) s := by
  unfold processStatus
  refine wp_bind (wp_imp (stageMessage_spec hid h hp _ nowMs) ?_)
  intro staged s₁ h₁
  refine wp_bind (wp_imp (applyMessage_spec h₁) ?_)
  rintro ⟨applied, userApplied⟩ s₂ h₂
  refine wp_bind (wp_imp (applyPlaintext_spec h₂) ?_)
  intro applied' s₃ h₃
  refine wp_bind (wp_imp (reconcile_spec h₃) ?_)
  intro _ s₄ h₄
  refine wp_bind (wp_imp (markProcessed_spec inj hid ?_ h₄) ?_)
  · intro hshould hmsg
    rw [and_eq_true, hmsg] at hshould
    simpa using hshould.2
  · intro _ s₅ h₅
    unfold report
    refine wp_bind (wp_note (wp_pure ⟨h₅.sound.note ?_, h₅.pending⟩))
    intro hd
    rw [if_neg Bool.false_ne_true]
    intro hmsg
    rw [hmsg, if_pos rfl] at hd
    exact (h₅.safe hmsg hd).imp decide_eq_true id

/-- **One deposit.** `#processOne` never throws, never touches the retry buffer,
and keeps the invariant wherever it is interrupted. -/
theorem processOne_spec
    (inj : ∀ a b, ids a → ids b → logKey a = logKey b → a = b)
    (hid : Identified ids frame) (nowMs : Int) (h : Sound ids s) :
    wp (processOne c frame nowMs) (fun _ s' => Sound ids s' ∧ s'.pending = s.pending)
      (fun _ => False) (Sound ids) s := by
  unfold processOne
  refine wp_bind (wp_imp (alreadyProcessed_spec hid h) ?_)
  rintro already s₁ ⟨h₁, hp₁, ha⟩
  by_cases hal : already = true
  · rw [if_pos hal] at ha ⊢
    exact wp_bind (wp_note (wp_pure ⟨h₁.note fun _ => by rwa [if_pos rfl], hp₁⟩))
  · rw [if_neg hal] at ha ⊢
    refine wp_bind (wp_imp (decryptDeposit_spec h₁ ha) ?_)
    rintro status s₂ ⟨h₂, hp₂⟩
    exact processStatus_spec inj hid nowMs status h₂ (hp₂.trans hp₁)

end Deposit

/-! ## The retry buffer -/

section Retries

variable {μ ρ : Type} {ids : DepositId → Prop} {s : PipelineState μ ρ}
  {c : Collaborators μ ρ} {pending : OrdMap String PendingEntry}

/-- Every retained frame is of a kind. -/
def Buffered (P : Frame → Prop) (pending : OrdMap String PendingEntry) : Prop :=
  ∀ k entry, pending.get? k = some entry → P entry.frame

section Buffered

variable {P : Frame → Prop}

section

variable (h : Buffered P pending)
include h

theorem Buffered.delete (key : String) :
    Buffered P (pending.delete key) := by
  intro k entry he
  rw [get?_delete] at he
  split at he
  · cases he
  · exact h k entry he

theorem Buffered.set (key : String) {entry : PendingEntry}
    (hf : P entry.frame) : Buffered P (pending.set key entry) := by
  intro k entry' he
  rw [get?_set] at he
  split at he
  · cases he
    exact hf
  · exact h k entry' he

theorem Buffered.settle (limits : Limits) (key : String)
    (result : Option Result) :
    Buffered P (settlePending limits key result pending) := by
  have kept : Buffered P (settlePending.retained limits key pending) := by
    unfold settlePending.retained
    cases hk : pending.get? key with
    | none => exact h
    | some entry =>
      dsimp only
      split
      · exact h.delete key
      · exact h.set key (h key entry hk)
  cases result with
  | none => exact kept
  | some r =>
    simp only [settlePending]
    split
    · exact h.delete key
    · exact kept

theorem Buffered.update (limits : Limits) {frame : Frame}
    (hf : P frame) (result : Result) :
    Buffered P (updatePending limits frame result pending) := by
  simp only [updatePending]
  split
  · exact h
  · split
    · exact h.delete _
    · split
      · exact h
      · split
        · exact h
        · refine Buffered.set ?_ _ hf
          split
          · split
            · exact h.delete _
            · exact h
          · exact h

end

end Buffered

theorem Retained.settle (h : Retained ids pending) (limits : Limits) (key : String)
    (result : Option Result) :
    Retained ids (settlePending limits key result pending) := Buffered.settle h limits key result

theorem Retained.update (h : Retained ids pending) (limits : Limits) {frame : Frame}
    (hf : Identified ids frame) (result : Result) :
    Retained ids (updatePending limits frame result pending) := Buffered.update h limits hf result

variable (inj : ∀ a b, ids a → ids b → logKey a = logKey b → a = b)

include inj

/-- Feeding a retained frame once more: when it made progress its entry is
gone, and otherwise no entry was added. -/
theorem redrainEntry_spec {entry : String × PendingEntry} (hf : Identified ids entry.2.frame)
    (nowMs : Int) (progress : Bool) (h : Sound ids s) :
    wp (redrainEntry c nowMs progress entry)
      (fun progress' s' => Sound ids s' ∧
        ∃ r, s'.pending = settlePending c.limits entry.1 r s.pending ∧
          progress' = (progress || progressed r))
      (fun _ => False) (Sound ids) s := by
  unfold redrainEntry
  refine wp_bind (wp_tryCatch (wp_bind (wp_mono
    (processOne_spec inj hf nowMs h) ?_ (fun _ hf => hf.elim) (fun _ hs => hs))))
  rintro r s₁ ⟨h₁, hp₁⟩
  refine wp_pure (wp_bind (wp_modify (wp_pure ⟨?_, some r, ?_, rfl⟩)))
  · exact h₁.setPending (h₁.pending.settle _ _ _)
  · rw [← hp₁]

omit inj in
/-- What settling one entry does to the size of the buffer. -/
theorem size_settlePending (limits : Limits) (key : String) (result : Option Result)
    (pending : OrdMap String PendingEntry) :
    (settlePending limits key result pending).size ≤ pending.size ∧
      (progressed result = true → pending.has key = true →
        (settlePending limits key result pending).size < pending.size) := by
  have kept : (settlePending.retained limits key pending).size ≤ pending.size := by
    unfold settlePending.retained
    cases hk : pending.get? key with
    | none => exact le_refl _
    | some entry =>
      dsimp only
      split
      · exact size_delete_le _ _
      · exact le_of_eq (size_set_of_has _ (has_of_get? hk))
  cases result with
  | none => exact ⟨kept, fun hp => absurd hp false_ne_true⟩
  | some r =>
    simp only [settlePending, progressed]
    split
    · exact ⟨size_delete_le _ _, fun _ hk => size_delete_lt hk⟩
    · rename_i hr
      exact ⟨kept, fun hp => absurd hp hr⟩

omit inj in
/-- Settling one entry neither adds nor removes another. -/
theorem has_settlePending (limits : Limits) {key k : String} (hk : k ≠ key) (result : Option Result)
    (pending : OrdMap String PendingEntry) :
    (settlePending limits key result pending).has k = pending.has k := by
  have del : (pending.delete key).has k = pending.has k := by
    rw [has_delete, decide_eq_false hk, Bool.not_false, Bool.true_and]
  have kept : (settlePending.retained limits key pending).has k = pending.has k := by
    unfold settlePending.retained
    cases pending.get? key with
    | none => rfl
    | some entry =>
      dsimp only
      split
      · exact del
      · rw [has_set, decide_eq_false hk, Bool.false_or]
  cases result with
  | none => exact kept
  | some r =>
    simp only [settlePending]
    split
    · exact del
    · exact kept

/-- **One pass.** It keeps the invariant, and if it made progress the buffer is
smaller than it was. -/
theorem redrainPass_spec (nowMs : Int) (h : Sound ids s) :
    wp (redrainPass c nowMs)
      (fun progress s' => Sound ids s' ∧ s'.pending.size ≤ s.pending.size ∧
        (progress = true → s'.pending.size < s.pending.size))
      (fun _ => False) (Sound ids) s := by
  unfold redrainPass
  refine wp_bind (wp_get (wp_imp (wp_foldlM
    (fun progress rest s' => Sound ids s' ∧ s'.pending.size ≤ s.pending.size ∧
      (progress = true → s'.pending.size < s.pending.size) ∧
      (rest.map Prod.fst).Nodup ∧ (∀ e ∈ rest, Identified ids e.2.frame) ∧
      ∀ e ∈ rest, s'.pending.has e.1 = true) ?_ s.pending.entries false s ?_)
    ?_))
  · -- one entry of the snapshot: the entries after it are still in the buffer
    rintro progress entry rest s₁ ⟨h₁, hle, hlt, hnd, hids, hmem⟩
    rw [map_cons, nodup_cons] at hnd
    refine wp_imp (redrainEntry_spec inj (hids entry mem_cons_self) nowMs
      progress h₁) ?_
    rintro progress' s₂ ⟨h₂, r, hp₂, hpr⟩
    obtain ⟨hsz, hszlt⟩ := size_settlePending c.limits entry.1 r s₁.pending
    rw [← hp₂] at hsz hszlt
    refine ⟨h₂, hsz.trans hle, ?_, hnd.2, fun e he => hids e (mem_cons_of_mem _ he), ?_⟩
    · intro hprog
      rw [hpr, or_eq_true] at hprog
      rcases hprog with hold | hnew
      · exact lt_of_le_of_lt hsz (hlt hold)
      · exact lt_of_lt_of_le (hszlt hnew (hmem entry mem_cons_self)) hle
    · intro e he
      have hne : e.1 ≠ entry.1 := fun heq =>
        hnd.1 (heq ▸ mem_map_of_mem (f := Prod.fst) he)
      rw [hp₂, has_settlePending _ hne]
      exact hmem e (mem_cons_of_mem _ he)
  · refine ⟨h, le_refl _, fun hf => absurd hf false_ne_true, s.pending.nodup, ?_, ?_⟩
    · exact fun e he => h.pending e.1 e.2 (mem_entries_iff.1 he)
    · exact fun e he => has_of_get? (mem_entries_iff.1 he)
  · rintro progress s' ⟨h', hle, hlt, -, -, -⟩
    exact ⟨h', hle, hlt⟩

/-- Passes end: with more fuel than there are entries, the last one made no
progress. -/
theorem redrainLoop_spec (nowMs : Int) :
    ∀ (fuel : Nat) (s : PipelineState μ ρ), Sound ids s → s.pending.size < fuel →
      wp (redrainLoop c nowMs fuel) (fun finished s' => Sound ids s' ∧ finished = true)
        (fun _ => False) (Sound ids) s
  | 0, _, _, hf => absurd hf (Nat.not_lt_zero _)
  | fuel + 1, s, h, hf => by
    rw [redrainLoop]
    refine wp_bind (wp_imp (redrainPass_spec inj nowMs h) ?_)
    rintro progress s' ⟨h', -, hlt⟩
    by_cases hp : progress = true
    · rw [if_pos hp]
      have hsmall := hlt hp
      exact redrainLoop_spec nowMs fuel s' h' (by omega)
    · rw [if_neg hp]
      exact wp_pure ⟨h', rfl⟩

/-- **The re-drain ends**, and keeps the invariant. -/
theorem redrainPending_finishes (nowMs : Int) (h : Sound ids s) :
    wp (redrainPending c nowMs) (fun finished s' => Sound ids s' ∧ finished = true)
      (fun _ => False) (Sound ids) s := by
  unfold redrainPending
  exact wp_bind (wp_get
    (redrainLoop_spec inj nowMs _ s h (Nat.lt_succ_self _)))

/-! ## The operations -/

theorem submit_spec {frame : Frame} (hf : Identified ids frame) (nowMs : Int)
    (h : Sound ids s) :
    wp (submit c frame nowMs) (fun _ => Sound ids) (fun _ => False) (Sound ids) s := by
  unfold submit
  refine wp_bind (wp_imp (processOne_spec inj hf nowMs h) ?_)
  rintro result s₁ ⟨h₁, -⟩
  have h₂ : Sound ids { s₁ with pending := updatePending c.limits frame result s₁.pending } :=
    h₁.setPending (h₁.pending.update _ hf result)
  refine wp_bind (wp_modify (wp_bind (wp_get ?_)))
  split
  · refine wp_bind (wp_imp (redrainPending_finishes inj nowMs h₂) ?_)
    exact fun _ s' hs => wp_pure hs.1
  · exact wp_pure h₂

theorem sweep_spec (nowMs : Int) (h : Sound ids s) :
    wp (sweep c nowMs) (fun _ => Sound ids) (fun _ => False) (Sound ids) s := by
  unfold sweep
  refine wp_bind (wp_get ?_)
  split
  · exact wp_pure h
  · refine wp_bind (wp_imp (redrainPending_finishes inj nowMs h) ?_)
    exact fun _ s' hs => wp_pure hs.1

omit inj

theorem retryFailed_spec (mailboxId dedupId : String) (bounds : RetryBounds)
    (acc : RetryReport) (h : Sound ids s) :
    wp (retryFailed mailboxId bounds dedupId acc) (fun _ => Sound ids)
      (fun _ => False) (Sound ids) s := by
  unfold retryFailed
  refine wp_bind (wp_imp (recordOutboxFailure_spec h) ?_)
  rintro count s₁ ⟨h₁, -, -, -⟩
  dsimp only
  split
  · rename_i hover
    -- the budget is noted as spent right before the entry is dropped
    refine wp_bind (wp_note (wp_bind (wp_imp
      (markOutboxApplied_spec (h₁.note hover) (.inr ⟨_, _, _, rfl⟩)) ?_)))
    exact fun _ s' hs => wp_pure hs.1
  · exact wp_pure h₁

theorem retryEntry_spec (mailboxId : String) (bounds : RetryBounds) (acc : RetryReport)
    (entry : OutboxEntry μ) (h : Sound ids s) :
    wp (retryEntry c mailboxId bounds acc entry) (fun _ => Sound ids)
      (fun _ => False) (Sound ids) s := by
  unfold retryEntry
  split
  · exact wp_pure h
  · refine wp_tryCatch (wp_bind (wp_inWorld ?_ ?_ ?_))
    · intro _ w
      refine wp_bind (wp_note (wp_bind (wp_mono
        (markOutboxApplied_spec ((h.setWorld w).note trivial) (.inl rfl)) ?_
        (fun _ hf => hf.elim) (fun _ hs => hs))))
      exact fun _ s' hs => wp_pure hs.1
    · exact fun w => retryFailed_spec mailboxId entry.dedupId bounds acc (h.setWorld w)
    · exact fun w => h.setWorld w

theorem retryApplyOutbox_spec (mailboxId : String) (bounds : RetryBounds)
    (h : Sound ids s) :
    wp (retryApplyOutbox c mailboxId bounds) (fun _ => Sound ids) (fun _ => False)
      (Sound ids) s := by
  unfold retryApplyOutbox
  refine wp_bind (wp_tryCatch (wp_bind (wp_zoom
    (ApplyOutbox.listPending_spec ?_ ?_ h))))
  · intro l _
    refine wp_pure ?_
    exact wp_foldlM (fun _ _ => Sound ids)
      (fun acc entry _ s' hs => retryEntry_spec mailboxId bounds acc entry hs) l _ _ h
  · exact wp_pure (wp_pure h)

theorem forget_spec (mailboxId dedupId : String) (h : Sound ids s) :
    wp (inLog (ρ := ρ) (μ := μ) (forget mailboxId dedupId))
      (fun _ => Sound ids) (Sound ids) (Sound ids) s := by
  refine wp_zoom (ProcessedLog.forget_spec ?_ ?_ h h)
  · exact fun _ => h
  · exact fun id _ => ⟨h.withoutMarker id, h.withoutMarker id⟩

end Retries

/-! ## Runs -/

section Runs

variable {μ ρ α : Type} {ids : DepositId → Prop} {s : PipelineState μ ρ}

/-- The condition on an operation: a submitted frame is identified. -/
def Pipeline.Op.Identified (ids : DepositId → Prop) : Op → Prop
  | .submit frame _ _ => Inbox.Identified ids frame
  | _ => True

theorem Sound.finish {p : Proc (PipelineState μ ρ) α} (wake : ρ → ρ)
    (h : wp p (fun _ => Sound ids) (Sound ids) (Sound ids) s) (fates : List Fate) :
    Sound ids (finish wake (p fates s)) := by
  have he := wp_ending h fates
  unfold Pipeline.finish
  split
  · exact he.restart wake
  · exact he

/-- **One step** of the pipeline keeps the invariant. -/
theorem Sound.step (c : Collaborators μ ρ) (wake : ρ → ρ)
    (inj : ∀ a b, ids a → ids b → logKey a = logKey b → a = b)
    (h : Sound ids s) {op : Op} (hop : op.Identified ids) :
    Sound ids (step c wake s op) := by
  cases op with
  | submit frame nowMs fates =>
    rw [Pipeline.step]
    exact Sound.finish wake (wp_mono (submit_spec inj hop nowMs h)
      (fun _ _ hs => hs) (fun _ hf => hf.elim) (fun _ hs => hs)) fates
  | sweep nowMs fates =>
    rw [Pipeline.step]
    exact Sound.finish wake (wp_mono (sweep_spec inj nowMs h)
      (fun _ _ hs => hs) (fun _ hf => hf.elim) (fun _ hs => hs)) fates
  | retryApplyOutbox mailboxId bounds fates =>
    rw [Pipeline.step]
    exact Sound.finish wake (wp_mono (retryApplyOutbox_spec mailboxId bounds h)
      (fun _ _ hs => hs) (fun _ hf => hf.elim) (fun _ hs => hs)) fates
  | forget mailboxId dedupId fates =>
    rw [Pipeline.step]
    exact Sound.finish wake (forget_spec mailboxId dedupId h) fates
  | restart => exact h.restart wake

/-- Exactly-once hand-over, read off a journal: (a) what a durable report rests
on, (b) what a processed mark rests on, (c) no marked deposit is handed to the
peer link again, where its lookup did not fail, and (d) what the removal of an
outbox entry directly follows. -/
structure ExactlyOnce (journal : List Event) : Prop where
  reported : ∀ id result message held past,
    (reported id result message held :: past) <:+ journal → result.durable = true →
      if result.alreadyProcessed = true then ∃ m h, marking id m h ∈ past
      else message = true → held = true ∨ applied id ∈ past
  marked : ∀ id message held past, (marking id message held :: past) <:+ journal →
    message = true → held = true ∨ applied id ∈ past
  decrypted : (∀ id, lookupFailed id ∉ journal) →
    ∀ id marked past, (decrypting id marked :: past) <:+ journal → marked = false
  unstaged : ∀ id past, (unstaging id :: past) <:+ journal →
    past.head? = some (.applied id) ∨ ∃ bounds attempts ageMs,
      past.head? = some (.exhausted id bounds attempts ageMs) ∧
        (overAttempts bounds attempts || overAge bounds attempts ageMs) = true

/-- The law of the journal is exactly-once hand-over. -/
theorem Lawful.exactlyOnce {journal : List Event} (h : Lawful journal) :
    ExactlyOnce journal where
  reported _ _ _ _ _ hs := of_suffix h hs
  marked _ _ _ _ hs := of_suffix h hs
  decrypted hlookups id marked past hs := by
    by_contra hm
    have hhead := of_suffix h hs (eq_true_of_not_eq_false hm)
    exact hlookups id (hs.subset (mem_cons_of_mem _ (mem_of_head? hhead)))
  unstaged id past hs := by
    rcases of_suffix h hs with ha | ⟨bounds, n, age, he⟩
    · exact .inl ha
    · refine .inr ⟨bounds, n, age, he, ?_⟩
      obtain ⟨rest, hrest⟩ : ∃ rest, past = .exhausted id bounds n age :: rest := by
        cases past with
        | nil => exact absurd he (by simp)
        | cons e rest =>
          rw [head?_cons, some_inj] at he
          exact ⟨rest, by rw [he]⟩
      have hsuf : (exhausted id bounds n age :: rest) <:+ journal := by
        rw [← hrest]
        exact (suffix_cons _ _).trans hs
      exact of_suffix h hsuf

/-- **Exactly-once hand-over.** Every run of submits, sweeps, retry passes,
prunings and restarts, whatever fails and wherever the process dies, hands over
exactly once, if the submitted frames are identified and no two of their
identities share a key of the processed log. -/
theorem run_exactlyOnce (c : Collaborators μ ρ) (wake : ρ → ρ) (world : ρ)
    (ids : DepositId → Prop)
    (inj : ∀ a b, ids a → ids b → logKey a = logKey b → a = b)
    (ops : List Op)
    (hops : Runs.Meets (Pipeline.step c wake) (fun _ op => op.Identified ids)
      (Pipeline.fresh world) ops) :
    ExactlyOnce (Runs.run (Pipeline.step c wake) (Pipeline.fresh world) ops).journal :=
  (Runs.invariant (Pipeline.step c wake) (fun _ _ h hop => h.step c wake inj hop) ops
    (Pipeline.fresh world) (sound_fresh world) hops).lawful.exactlyOnce

/-- A peer link that decrypts every deposit to a message, and an event service
that applies none. -/
def failingApply : Collaborators String Unit where
  decryptDeposit _ := pure (some ⟨true, true, some "hello"⟩)
  applyUserMessage _ := throw
  processDeposit _ := pure ()

/-- A home event of the mailbox `m`. -/
def addressed : Frame := { mailboxId := some "m", seq := some 1, ciphertextB64 := some "ct" }

/-- `run_exactlyOnce` at a run in which a message is staged, its apply fails and
the retry pass gives it up. -/
theorem run_exactlyOnce_addressed :
    ExactlyOnce (Runs.run (Pipeline.step failingApply id) (Pipeline.fresh ())
      [.submit addressed 0 [], .retryApplyOutbox "m" ⟨2, 0, 0, 5⟩ []]).journal :=
  run_exactlyOnce failingApply id () ProcessedLog.Sequenced
    (fun _ _ ha hb hk => logKey_injOn_sequenced ha hb hk) _
    ⟨⟨⟨1, rfl⟩, by decide, by decide, by decide⟩, trivial, trivial⟩

/-- The same event without a mailbox: `mailboxId` is an optional field of a
frame. -/
def unaddressed : Frame := { eventId := some "evt-1", ciphertextB64 := some "ct" }

/-- **A frame without a mailbox is reported durable with its message nowhere.**
`outbox.stage` has no key to file it under and answers `false`, the pipeline
takes the call for a success, and the apply fails. -/
theorem submit_unaddressed :
    ¬ ExactlyOnce (Runs.run (Pipeline.step failingApply id) (Pipeline.fresh ())
      [.submit unaddressed 0 []]).journal := by
  intro h
  have hj : (Runs.run (Pipeline.step failingApply id) (Pipeline.fresh ())
      [.submit unaddressed 0 []]).journal =
      [.reported ⟨"", "evt-1"⟩ ⟨true, true, false, false, true⟩ true false,
       .marking ⟨"", "evt-1"⟩ true false, .decrypting ⟨"", "evt-1"⟩ false] := by decide
  rw [hj] at h
  have hr := h.reported _ _ _ _ _ (suffix_refl _) rfl
  rw [if_neg Bool.false_ne_true] at hr
  rcases hr rfl with hheld | happlied
  · exact Bool.false_ne_true hheld
  · exact absurd happlied (by decide)

end Runs

end RezChat.Inbox
