/-
Cursor safety of the durable drain.

`cursorAck(throughSeq)` lets the home forget everything at or below
`throughSeq`. So whatever the home ever listed there must have been dealt with
before the acknowledgement is sent: reported durable or already processed by the
pipeline, or quarantined after one of the two bounds was reached, by attempts or
by age with its floor of attempts.

The argument has two halves. Within a page, the watermark moves only along a
contiguous run of resolved items, and a page has no holes. Between pages, what
was listed and is not resolved is still above the cursor, and the home keeps it,
so the next page that reaches as far lists it again.
-/
import RezChat.Lib.Journal
import RezChat.Catchup.Kept

set_option autoImplicit false

namespace RezChat.Catchup

open Inbox Service Event Kept Bool Home Nat Runs
open List Proc

/-! ## The law of the journal -/

/-- The home listed the sequence number. -/
def Listed (seq : Nat) (journal : List Event) : Prop :=
  ∃ seqs, listed seqs ∈ journal ∧ seq ∈ seqs

/-- The pipeline reported the deposit durable or already processed, or it was
quarantined at a bound. -/
def Resolved (cfg : Config) (seq : Nat) (journal : List Event) : Prop :=
  settled (.seq seq) true ∈ journal ∨ ∃ attempts ageMs reason contiguous,
    quarantined (.seq seq) attempts ageMs reason contiguous ∈ journal ∧
      BoundReached cfg attempts ageMs

/-- An acknowledgement covers only what is resolved. -/
def Event.Covers (cfg : Config) (past : List Event) : Event → Prop
  | .acking throughSeq => ∀ seq, seq ≤ throughSeq → Listed seq past → Resolved cfg seq past
  | _ => True

/-- An entry that neither lists nor acknowledges. -/
def Event.isQuiet : Event → Bool
  | .listed _ => false
  | .acking _ => false
  | _ => true

theorem Resolved.mono {cfg : Config} {seq : Nat} {journal journal' : List Event}
    (h : Resolved cfg seq journal) (hs : ∀ e ∈ journal, e ∈ journal') :
    Resolved cfg seq journal' := by
  rcases h with h | ⟨n, age, reason, c, h, hb⟩
  · exact .inl (hs _ h)
  · exact .inr ⟨n, age, reason, c, hs _ h, hb⟩

/-! ## Quiet steps -/

section Quiet

variable {ρ : Type} {cfg : Config} {s₀ s s' : State ρ}

/-- From `s₀` to `s` the home was left alone, and nothing was listed or
acknowledged. -/
abbrev Quiet (s₀ s : State ρ) : Prop := Kept (fun home _ => home) isQuiet s₀ s

theorem Quiet.listed (h : Quiet s₀ s) {seq : Nat} (hl : Listed seq s.journal) :
    Listed seq s₀.journal := by
  obtain ⟨seqs, hmem, hseq⟩ := hl
  exact ⟨seqs, h.mem_of_not hmem rfl, hseq⟩

/-- A deposit the failure handler gives up is resolved. -/
theorem handleDurableFailure_spec (seq : Nat) (contiguous : Bool) (h : Quiet s₀ s) :
    wp (handleDurableFailure cfg seq contiguous)
      (fun skip s' => Quiet s₀ s' ∧ (skip = true → Resolved cfg seq s'.journal))
      (fun _ => False) (Quiet s₀) s := by
  have gaveUp : ∀ s', GaveUp (fun home _ => home) isQuiet cfg seq contiguous s₀ s' →
      Quiet s₀ s' ∧ Resolved cfg seq s'.journal := by
    rintro s' ⟨attempts, ageMs, reason, s₁, h₁, hb, h₂⟩
    refine ⟨(h₁.note rfl).trans h₂.kept, .inr ⟨attempts, ageMs, reason, contiguous, ?_, hb⟩⟩
    exact h₂.subset mem_cons_self
  refine wp_mono (handleDurableFailure_kept seq contiguous (fun _ => rfl) h) ?_
    (fun _ hf => hf) ?_
  · intro skip s' hs
    split at hs
    · exact ⟨(gaveUp s' hs).1, fun _ => (gaveUp s' hs).2⟩
    · rename_i hn
      exact ⟨hs, fun hf => absurd hf hn⟩
  · rintro s' (h₁ | h₁)
    · exact h₁
    · exact (gaveUp s' h₁).1

/-! ### The legacy pass, which has no cursor -/

theorem ackAndForget_quiet (eventId : String) (h : Quiet s₀ s) :
    wp (ackAndForget cfg eventId) (fun _ => Quiet s₀) (fun _ => False) (Quiet s₀) s := by
  unfold ackAndForget
  refine wp_bind (wp_imp (dropBackoff_kept (.event eventId) h) ?_)
  intro _ s₁ h₁
  have pruned : ∀ s₂, Quiet s₀ s₂ → wp (do
      forget cfg (.event eventId)
      clearAttempts cfg (.event eventId)) (fun _ => Quiet s₀) (fun _ => False) (Quiet s₀) s₂ :=
    fun s₂ h₂ => wp_bind (wp_imp (forget_kept (.event eventId) h₂)
      (fun _ _ h₃ => clearAttempts_kept (.event eventId) h₃))
  refine wp_bind (wp_tryCatch (wp_bind (wp_await ?_ ?_ ?_ h₁)))
  · exact wp_pure (pruned _ (h₁.frame rfl rfl))
  · exact wp_bind (wp_note (wp_pure (wp_pure (h₁.note rfl))))
  · refine wp_bind (wp_note (wp_pure (wp_pure ?_)))
    apply Kept.note
    · exact h₁.frame rfl rfl
    · rfl

theorem handleDecryptFailure_quiet (eventId : String) (h : Quiet s₀ s) :
    wp (handleDecryptFailure cfg eventId) (fun _ => Quiet s₀) (fun _ => False)
      (Quiet s₀) s := by
  unfold handleDecryptFailure
  refine wp_bind (wp_imp (countFailure_kept (.event eventId) (fun _ => rfl) h) ?_)
  rintro counted s₁ ⟨h₁, -⟩
  cases counted with
  | none => exact wp_pure h₁
  | some count =>
    dsimp only
    split
    · unfold emitQuarantined
      exact wp_bind (wp_note (ackAndForget_quiet eventId (h₁.note rfl)))
    · exact armBackoff_kept (.event eventId) count h₁

theorem drainEvent_quiet (port : PipelinePort ρ) (eventId : String) (h : Quiet s₀ s) :
    wp (drainEvent port cfg eventId) (fun _ => Quiet s₀) (Quiet s₀) (Quiet s₀) s := by
  unfold drainEvent
  split
  · exact wp_pure h
  · refine wp_bind (wp_get ?_)
    split
    · exact wp_pure h
    · refine wp_bind (wp_await_read ?_ h h)
      refine wp_bind (wp_mono (submitFrame_kept port (.event eventId) _ (fun _ => rfl) h) ?_
        (fun _ hf => hf.elim) (fun _ hs => hs))
      rintro ok s₁ ⟨h₁, -⟩
      split
      · exact wp_mono (ackAndForget_quiet eventId h₁) (fun _ _ h₂ => h₂)
          (fun _ hf => hf.elim) (fun _ hs => hs)
      · exact wp_mono (handleDecryptFailure_quiet eventId h₁) (fun _ _ h₂ => h₂)
          (fun _ hf => hf.elim) (fun _ hs => hs)

theorem drainLegacy_quiet (port : PipelinePort ρ) :
    ∀ (pages : List (List String)) (s : State ρ), Quiet s₀ s →
      wp (drainLegacy port cfg pages) (fun _ => Quiet s₀) (Quiet s₀) (Quiet s₀) s
  | [], _, h => wp_pure h
  | named :: pages, s, h => by
    rw [drainLegacy]
    refine wp_bind (wp_await_read ?_ h h)
    split
    · exact wp_pure h
    · refine wp_bind (wp_imp (wp_foldlM (fun _ _ => Quiet s₀)
        (fun _ eventId _ s₁ h₁ => drainEvent_quiet port eventId h₁) _ _ s h) ?_)
      exact fun _ s₁ h₁ => drainLegacy_quiet port pages s₁ h₁

end Quiet

/-! ## The invariant between pages -/

section Pages

variable {ρ : Type} {cfg : Config} {s₀ s s' : State ρ}

/-- What was listed is resolved when the cursor is past it, and still at the home
when it is not. -/
structure CursorSafe (cfg : Config) (s : State ρ) : Prop where
  law : Journal.Throughout (fun e past => e.Covers cfg past) s.journal
  behind : ∀ seq, Listed seq s.journal → seq ≤ s.home.cursor → Resolved cfg seq s.journal
  ahead : ∀ seq, Listed seq s.journal → s.home.cursor < seq →
    ∃ d ∈ s.home.deposits, d.seq = seq

theorem CursorSafe.quiet (h : CursorSafe cfg s) (hq : Quiet s s') : CursorSafe cfg s' where
  law := by
    obtain ⟨es, hes, hall⟩ := hq.journal
    rw [hes]
    clear hes
    induction es with
    | nil => exact h.law
    | cons e es ih =>
      refine ⟨?_, ih fun e' he' => hall e' (mem_cons_of_mem _ he')⟩
      have he := hall e mem_cons_self
      cases e with
      | acking q => exact absurd he false_ne_true
      | _ => trivial
  behind seq hl hc :=
    (h.behind seq (hq.listed hl) (hq.view ▸ hc)).mono fun _ he => hq.subset he
  ahead seq hl hc := by
    rw [hq.view] at hc ⊢
    exact h.ahead seq (hq.listed hl) hc

/-- **Listing.** What is listed is at the home and above the cursor. -/
theorem listPage_spec (h : CursorSafe cfg s) :
    wp (listPage cfg)
      (fun items s' => CursorSafe cfg s' ∧ s'.home = s.home.catchUp.1 ∧
        items = s'.home.page cfg.pageLimit)
      (CursorSafe cfg) (CursorSafe cfg) s := by
  have hs : CursorSafe cfg { s with
      home := s.home.catchUp.1
      clock := s.clock + s.home.catchUp.2
      journal := .listed ((s.home.catchUp.1.page cfg.pageLimit).map Deposit.seq) ::
        s.journal } := by
    have split : ∀ seq, Listed seq (listed
        ((s.home.catchUp.1.page cfg.pageLimit).map Deposit.seq) :: s.journal) →
        Listed seq s.journal ∨ ∃ d ∈ s.home.catchUp.1.page cfg.pageLimit, d.seq = seq := by
      rintro seq ⟨seqs, hmem, hseq⟩
      rcases mem_cons.1 hmem with he | hmem
      · rw [listed.injEq] at he
        rw [he] at hseq
        exact .inr (mem_map.1 hseq)
      · exact .inl ⟨seqs, hmem, hseq⟩
    refine ⟨⟨trivial, h.law⟩, fun seq hl hc => ?_, fun seq hl hc => ?_⟩
    · rcases split seq hl with hold | ⟨d, hd, rfl⟩
      · exact (h.behind seq hold (by simpa using hc)).mono fun _ he =>
          mem_cons_of_mem _ he
      · exact absurd (page_above hd).2 (not_lt.2 hc)
    · rcases split seq hl with hold | ⟨d, hd, rfl⟩
      · obtain ⟨d, hd, hseq⟩ := h.ahead seq hold (by simpa using hc)
        exact ⟨d, mem_catchUp hd, hseq⟩
      · exact ⟨d, (page_above hd).1, rfl⟩
  exact wp_await ⟨hs, rfl, rfl⟩ h hs h

/-- **Acknowledging** a watermark below which everything listed is resolved. -/
theorem ackBatch_spec (b : Batch) (h : CursorSafe cfg s)
    (hb : ∀ seq, seq ≤ b.throughSeq → Listed seq s.journal → Resolved cfg seq s.journal) :
    wp (ackBatch cfg b)
      (fun goOn s' => CursorSafe cfg s' ∧
        (goOn = true → s'.home = s.home.cursorAck b.throughSeq))
      (fun _ => False) (CursorSafe cfg) s := by
  have sub : ∀ {seq}, Listed seq (acking b.throughSeq :: s.journal) →
      Listed seq s.journal := by
    rintro seq ⟨seqs, hmem, hseq⟩
    rcases mem_cons.1 hmem with he | hmem
    · cases he
    · exact ⟨seqs, hmem, hseq⟩
  have sent : CursorSafe cfg (s.noted (.acking b.throughSeq)) := by
    refine ⟨⟨hb, h.law⟩, fun seq hl hc => ?_, fun seq hl hc => h.ahead seq (sub hl) hc⟩
    exact (h.behind seq (sub hl) hc).mono fun _ he => mem_cons_of_mem _ he
  have moved : CursorSafe cfg { s.noted (.acking b.throughSeq) with
      home := s.home.cursorAck b.throughSeq } := by
    refine ⟨sent.law, fun seq hl hc => ?_, fun seq hl hc => ?_⟩
    · rcases lt_or_ge s.home.cursor seq with hlt | hle
      · refine (hb seq ?_ (sub hl)).mono fun _ he => mem_cons_of_mem _ he
        simp only [cursorAck] at hc
        omega
      · exact sent.behind seq hl hle
    · refine h.ahead seq (sub hl) ?_
      simp only [cursorAck] at hc
      omega
  have failed : ∀ s₁ : State ρ, CursorSafe cfg s₁ → ∀ left,
      CursorSafe cfg (s₁.noted (.ackFailed left)) :=
    fun s₁ h₁ left => h₁.quiet ((refl s₁).note rfl)
  unfold ackBatch
  refine wp_bind (wp_note (wp_bind (wp_tryCatch (wp_bind
    (wp_await ?_ ?_ ?_ sent)))))
  · refine wp_pure ?_
    rw [if_pos rfl]
    -- the markers are pruned behind the cursor: quiet from here on
    exact wp_bind (wp_mono (forgetConsumedSeqs_kept b.consumedSeqs (refl _))
      (fun _ s₂ h₂ => wp_pure ⟨moved.quiet h₂, fun _ => h₂.view⟩)
      (fun _ hf => hf) (fun s₂ h₂ => moved.quiet h₂))
  · exact wp_bind (wp_note (wp_pure (wp_pure
      ⟨failed _ sent _, fun hf => absurd hf false_ne_true⟩)))
  · exact wp_bind (wp_note (wp_pure (wp_pure
      ⟨failed _ moved _, fun hf => absurd hf false_ne_true⟩)))

/-! ## The loop within a page -/

/-- What is known after the items `done` of the page. The watermark is zero or
at an item; up to it everything is resolved, and so is everything done as long
as the run is contiguous; and if nothing blocked the pass, the watermark has
moved. -/
structure Progress (cfg : Config) (page : List Deposit) (s₀ : State ρ) (done : List Deposit)
    (b : Batch) (s : State ρ) : Prop where
  quiet : Quiet s₀ s
  through : b.throughSeq = 0 ∨ ∃ d ∈ page, d.seq = b.throughSeq
  resolved : ∀ d ∈ page, d.seq ≤ b.throughSeq → Resolved cfg d.seq s.journal
  contiguous : b.contiguous = true → ∀ d ∈ done, Resolved cfg d.seq s.journal
  moving : b.blocked = false → b.contiguous = true ∧ (done ≠ [] → 0 < b.throughSeq)

/-- The three things one item can do to the batch: make a gap, extend the
contiguous run, or come after a gap. -/
theorem drainItem_spec (port : PipelinePort ρ) (item : Deposit) (seq : Nat) (b : Batch)
    (h : Quiet s₀ s) :
    wp (drainItem port cfg item seq b)
      (fun b' s' => Quiet s s' ∧
        ((b'.throughSeq = b.throughSeq ∧ b'.contiguous = false ∧ b'.blocked = true) ∨
         (b.contiguous = true ∧ b'.throughSeq = seq ∧ b'.contiguous = true ∧
          b'.blocked = b.blocked ∧ Resolved cfg seq s'.journal) ∨
         (b.contiguous = false ∧ b' = b)))
      (fun _ => False) (Quiet s₀) s := by
  unfold drainItem
  refine wp_bind (wp_get ?_)
  split
  · exact wp_pure ⟨refl s, .inl ⟨rfl, rfl, rfl⟩⟩
  · refine wp_bind (wp_mono (submitFrame_kept port (.seq seq) _ (fun _ => rfl) (refl s)) ?_
      (fun _ hf => hf) (fun _ hs => h.trans hs))
    rintro ok s₁ ⟨h₁, hok⟩
    by_cases hokt : ok = true
    · rw [if_pos hokt]
      subst hokt
      by_cases hc : b.contiguous = true
      · rw [if_pos hc]
        exact wp_pure ⟨h₁, .inr (.inl ⟨hc, rfl, hc, rfl, .inl hok⟩)⟩
      · rw [if_neg hc]
        exact wp_pure ⟨h₁, .inr (.inr ⟨eq_false_iff.2 hc, rfl⟩)⟩
    · rw [if_neg hokt]
      refine wp_bind (wp_mono (handleDurableFailure_spec seq b.contiguous h₁) ?_
        (fun _ hf => hf) (fun _ hs => h.trans hs))
      rintro skip s₂ ⟨h₂, hskip⟩
      by_cases hs : skip = true
      · rw [if_pos hs]
        by_cases hc : b.contiguous = true
        · rw [if_pos hc]
          exact wp_pure ⟨h₂, .inr (.inl ⟨hc, rfl, hc, rfl, hskip hs⟩)⟩
        · rw [if_neg hc]
          exact wp_pure ⟨h₂, .inr (.inr ⟨eq_false_iff.2 hc, rfl⟩)⟩
      · rw [if_neg hs]
        exact wp_pure ⟨h₂, .inl ⟨rfl, rfl, rfl⟩⟩

theorem itemSeq_eq {item : Deposit} {seq : Nat} (h : itemSeq item = some seq) :
    item.seq = seq ∧ 0 < seq := by
  unfold itemSeq at h
  split at h
  · rename_i hu
    rw [Option.some_inj] at h
    exact ⟨h, h ▸ hu.2⟩
  · cases h

/-- **The page loop.** By induction on the items that are left. -/
theorem drainItems_spec (port : PipelinePort ρ) {page : List Deposit}
    (hasc : page.Pairwise (fun a b => a.seq < b.seq)) :
    ∀ (rest done : List Deposit) (b : Batch) (s : State ρ), page = done ++ rest →
      Progress cfg page s₀ done b s →
      wp (drainItems port cfg rest b)
        (fun b' s' => ∃ done', Progress cfg page s₀ done' b' s' ∧
          (b'.blocked = false → done' = page))
        (fun _ => False) (Quiet s₀) s
  | [], done, b, s, hpage, h => by
    refine wp_pure ⟨done, h, fun _ => ?_⟩
    rw [hpage, append_nil]
  | item :: rest, done, b, s, hpage, h => by
    rw [drainItems]
    cases hi : itemSeq item with
    | none =>
      exact wp_pure ⟨done, ⟨h.quiet, h.through, h.resolved, h.contiguous,
        fun hf => absurd hf.symm false_ne_true⟩, fun hf => absurd hf.symm
        false_ne_true⟩
    | some seq =>
      obtain ⟨hseq, hpos⟩ := itemSeq_eq hi
      have hmem : item ∈ page := by
        rw [hpage]
        exact mem_append_right _ mem_cons_self
      refine wp_bind (wp_imp (drainItem_spec port item seq b h.quiet) ?_)
      rintro b' s' ⟨hq, hcase⟩
      have keep : ∀ {n : Nat}, Resolved cfg n s.journal → Resolved cfg n s'.journal :=
        fun hr => hr.mono fun _ he => hq.subset he
      refine drainItems_spec port hasc rest (done ++ [item]) b' s' (by simp [hpage]) ?_
      rcases hcase with ⟨ht, hc, hbl⟩ | ⟨hc, ht, hc', hbl, hres⟩ | ⟨hc, rfl⟩
      · -- a gap: the watermark stays
        refine ⟨h.quiet.trans hq, ht ▸ h.through, ?_, ?_, ?_⟩
        · intro d hd hle
          rw [ht] at hle
          exact keep (h.resolved d hd hle)
        · intro hf
          rw [hc] at hf
          exact absurd hf false_ne_true
        · intro hf
          rw [hbl] at hf
          exact absurd hf.symm false_ne_true
      · -- the run goes on: all that is done is resolved, and nothing else is below
        have hdone : ∀ d ∈ done ++ [item], Resolved cfg d.seq s'.journal := by
          intro d hd
          rcases mem_append.1 hd with hd | hd
          · exact keep (h.contiguous hc d hd)
          · rw [mem_singleton.1 hd, hseq]
            exact hres
        refine ⟨h.quiet.trans hq, .inr ⟨item, hmem, hseq.trans ht.symm⟩, ?_,
          fun _ => hdone, fun _ => ⟨hc', fun _ => ht ▸ hpos⟩⟩
        intro d hd hle
        rw [ht, ← hseq] at hle
        have hd' : d ∈ (done ++ [item]) ++ rest := by simpa [hpage] using hd
        rcases mem_append.1 hd' with hd' | hd'
        · exact hdone d hd'
        · have hasc' : ((done ++ [item]) ++ rest).Pairwise (fun a b => a.seq < b.seq) := by
            simpa [hpage] using hasc
          have := (pairwise_append.1 hasc').2.2 item (by simp) d hd'
          omega
      · -- behind a gap nothing changes
        refine ⟨h.quiet.trans hq, h.through, fun d hd hle => keep (h.resolved d hd hle), ?_, ?_⟩
        · intro hf
          rw [hc] at hf
          exact absurd hf false_ne_true
        · intro hf
          rw [(h.moving hf).1] at hc
          exact absurd hc.symm false_ne_true

/-- The watermark of a page covers only what is resolved: what was listed before
and lies between the cursor and the watermark is on the page again. -/
theorem Progress.covers {done : List Deposit} {b : Batch}
    (h : Progress cfg (s₀.home.page cfg.pageLimit) s₀ done b s) (hs : CursorSafe cfg s₀)
    (hpos : 0 < b.throughSeq) (seq : Nat) (hle : seq ≤ b.throughSeq)
    (hl : Listed seq s.journal) : Resolved cfg seq s.journal := by
  rcases lt_or_ge s₀.home.cursor seq with hlt | hge
  · obtain ⟨d, hd, rfl⟩ := hs.ahead seq (h.quiet.listed hl) hlt
    obtain ⟨e, he, hthrough⟩ := h.through.resolve_left (Nat.pos_iff_ne_zero.1 hpos)
    exact h.resolved d (page_downward he hd hlt (hthrough ▸ hle)) hle
  · exact (hs.quiet h.quiet).behind seq hl (h.quiet.view ▸ hge)

/-- **The drain loop.** It keeps the invariant, and with more fuel than there are
deposits to list it ends. -/
theorem drainLoop_spec (port : PipelinePort ρ) :
    ∀ (fuel : Nat) (s : State ρ), CursorSafe cfg s →
      wp (drainLoop port cfg fuel)
        (fun finished s' => CursorSafe cfg s' ∧ (s.home.backlog < fuel → finished = true))
        (CursorSafe cfg) (CursorSafe cfg) s
  | 0, s, h => wp_pure ⟨h, fun hf => absurd hf (not_lt_zero _)⟩
  | fuel + 1, s, h => by
    rw [drainLoop]
    refine wp_bind (wp_imp (listPage_spec h) ?_)
    rintro items s₁ ⟨h₁, hhome, hitems⟩
    by_cases hempty : items = []
    · rw [if_pos hempty]
      exact wp_pure ⟨h₁, fun _ => rfl⟩
    rw [if_neg hempty]
    have start : Progress cfg items s₁ [] Batch.start s₁ := by
      refine ⟨refl s₁, .inl rfl, fun d hd hle => ?_, fun _ d hd => (by cases hd),
        fun _ => ⟨rfl, fun hf => absurd rfl hf⟩⟩
      rw [hitems] at hd
      exact absurd (page_above hd).2 (not_lt.2 (le_trans hle (zero_le _)))
    have hasc : items.Pairwise (fun a b => a.seq < b.seq) :=
      hitems ▸ page_ascending s₁.home cfg.pageLimit
    refine wp_bind (wp_mono (drainItems_spec port hasc items [] Batch.start s₁ rfl
      start) ?_ (fun _ hf => hf.elim) (fun _ hq => h₁.quiet hq))
    rintro b s₂ ⟨done, hp, hdone⟩
    have h₂ : CursorSafe cfg s₂ := h₁.quiet hp.quiet
    -- the pass ends here, or goes on over a home with less to list
    have next : ∀ (goOn : Bool) (s₃ : State ρ), CursorSafe cfg s₃ →
        (goOn = true → b.blocked = false → s₃.home.backlog < s.home.backlog) →
        wp (if (!goOn) = true then pure true
            else if b.blocked = true then pure true else drainLoop port cfg fuel)
          (fun finished s' => CursorSafe cfg s' ∧
            (s.home.backlog < fuel + 1 → finished = true))
          (CursorSafe cfg) (CursorSafe cfg) s₃ := by
      intro goOn s₃ h₃ hless
      cases hg : goOn with
      | false => exact wp_pure ⟨h₃, fun _ => rfl⟩
      | true =>
        cases hb : b.blocked with
        | true => exact wp_pure ⟨h₃, fun _ => rfl⟩
        | false =>
          have hlt := hless hg hb
          refine wp_imp (drainLoop_spec port fuel s₃ h₃) ?_
          exact fun finished s' h' => ⟨h'.1, fun hf => h'.2 (by omega)⟩
    by_cases hpos : 0 < b.throughSeq
    · rw [if_pos hpos]
      rw [hitems] at hp
      refine wp_bind (wp_mono (ackBatch_spec b h₂ (hp.covers h₁ hpos)) ?_
        (fun _ hf => hf.elim) (fun _ hs => hs))
      rintro goOn s₃ ⟨h₃, hack⟩
      refine next goOn s₃ h₃ fun hg _ => ?_
      obtain ⟨e, he, hthrough⟩ := hp.through.resolve_left (Nat.pos_iff_ne_zero.1 hpos)
      rw [hack hg, hp.quiet.view, ← hthrough]
      refine lt_of_lt_of_le (backlog_cursorAck (mem_of_mem_take he)) ?_
      rw [hhome]
      exact backlog_catchUp s.home
    · rw [if_neg hpos]
      refine wp_bind (wp_pure (next true s₂ h₂ fun _ hb => ?_))
      -- nothing blocked the pass, so the watermark moved
      have hmoved := (hp.moving hb).2
      rw [hdone hb] at hmoved
      exact absurd (hmoved hempty) hpos

/-- **Each drain pass ends.** -/
theorem drainDurable_ends (port : PipelinePort ρ) (h : CursorSafe cfg s) :
    wp (drainDurable port cfg) (fun finished s' => CursorSafe cfg s' ∧ finished = true)
      (CursorSafe cfg) (CursorSafe cfg) s := by
  unfold drainDurable
  refine wp_bind (wp_get (wp_imp (drainLoop_spec port _ s h) ?_))
  exact fun finished s' h' => ⟨h'.1, h'.2 (lt_succ_self _)⟩

theorem drainOnce_spec (port : PipelinePort ρ) (mode : Mode) (h : CursorSafe cfg s) :
    wp (drainOnce port cfg mode) (fun _ => CursorSafe cfg) (CursorSafe cfg)
      (CursorSafe cfg) s := by
  unfold drainOnce
  refine wp_bind (wp_mono (retryApplyOutbox_kept port (fun _ => rfl) (refl s)) ?_
    (fun _ hf => hf.elim) (fun _ hq => h.quiet hq))
  intro _ s₁ hq
  have h₁ := h.quiet hq
  cases mode with
  | durable =>
    exact wp_bind (wp_imp (drainDurable_ends port h₁)
      (fun _ _ h₂ => wp_pure h₂.1))
  | legacy pages =>
    exact wp_mono (drainLegacy_quiet port pages s₁ (refl s₁))
      (fun _ _ h₂ => h₁.quiet h₂) (fun _ h₂ => h₁.quiet h₂) (fun _ h₂ => h₁.quiet h₂)

end Pages

/-! ## Runs -/

section Runs

variable {ρ : Type} {cfg : Config} {s : State ρ}

theorem cursorSafe_fresh (cursor : Nat) (clock : Int) (world : ρ) :
    CursorSafe cfg (fresh cursor clock world) :=
  ⟨trivial, fun _ ⟨_, hm, _⟩ => (by cases hm), fun _ ⟨_, hm, _⟩ => (by cases hm)⟩

/-- Deposits that arrive take nothing away. -/
theorem CursorSafe.setHome (h : CursorSafe cfg s) {home : Home}
    (hc : home.cursor = s.home.cursor) (hd : ∀ d ∈ s.home.deposits, d ∈ home.deposits) :
    CursorSafe cfg { s with home := home } := by
  refine ⟨h.law, fun seq hl hle => h.behind seq hl (hc ▸ hle), fun seq hl hlt => ?_⟩
  obtain ⟨d, hmem, hseq⟩ := h.ahead seq hl (hc ▸ hlt)
  exact ⟨d, hd d hmem, hseq⟩

theorem CursorSafe.restart (h : CursorSafe cfg s) (wake : ρ → ρ) :
    CursorSafe cfg (restart wake s) := by
  refine h.quiet (frame (s := s.noted .restarted) ?_ rfl rfl)
  exact (refl s).note rfl

/-- **One step** of the service keeps the invariant. -/
theorem CursorSafe.step (port : PipelinePort ρ) (wake : ρ → ρ) (h : CursorSafe cfg s)
    (op : Op) : CursorSafe cfg (step port cfg wake s op) := by
  cases op with
  | drain mode fates =>
    have he := wp_ending (drainOnce_spec port mode h) fates
    rw [Service.step, Service.finish]
    split
    · exact he.restart wake
    · exact he
  | arrive deposits =>
    exact h.setHome rfl fun d hd => mem_fileDeposits_of_mem deposits hd
  | schedule arrivals => exact h.setHome rfl fun d hd => hd
  | arriveLegacy eventId ciphertextB64 => exact h.quiet ((refl s).frame rfl rfl)
  | elapse ms => exact h.quiet ((refl s).frame rfl rfl)
  | restart => exact h.restart wake

/-- **Cursor safety.** In every run, from any start position of the cursor,
every acknowledgement covers only deposits that were reported durable or already
processed or were quarantined at one of the two bounds; and from every state
reached a durable pass ends. -/
theorem run_cursorSafe (port : PipelinePort ρ) (cfg : Config) (wake : ρ → ρ) (cursor : Nat)
    (clock : Int) (world : ρ) (ops : List Op) :
    (∀ throughSeq past, (acking throughSeq :: past) <:+
        (run (Service.step port cfg wake) (fresh cursor clock world) ops).journal →
      ∀ seq, seq ≤ throughSeq → Listed seq past → Resolved cfg seq past) ∧
    ∀ fates, (drainDurable port cfg fates
      (run (Service.step port cfg wake) (fresh cursor clock world) ops)).outcome ≠
        .returned false := by
  have h : CursorSafe cfg
      (run (Service.step port cfg wake) (fresh cursor clock world) ops) :=
    invariant_all (Service.step port cfg wake) (fun _ op hs => hs.step port wake op) ops _
      (cursorSafe_fresh cursor clock world)
  refine ⟨fun throughSeq past hs => h.law.of_suffix hs, fun fates hf => ?_⟩
  exact absurd (wp_returned (drainDurable_ends port h) hf).2 false_ne_true

/-- A pipeline that can decrypt nothing. -/
def undecryptable : PipelinePort Unit where
  submit _ := pure ⟨false, false, false, false, false⟩
  retryApplyOutbox _ _ := pure ⟨[], []⟩

/-- Three drains of one undecryptable deposit, the last one after half an
hour. -/
def threeDrains : List Op :=
  [.arrive [⟨1, true, "ct"⟩], .drain .durable [], .drain .durable [],
   .elapse (30 * 60 * 1000), .drain .durable []]

theorem threeDrains_journal :
    (run (step undecryptable { mailboxId := "m" } id)
      (fresh 0 1 ()) threeDrains).journal =
    [.listed [], .acking 1, .quarantined (.seq 1) 3 1800000 .age true,
     .attempted (.seq 1) 3, .settled (.seq 1) false, .listed [1],
     .attempted (.seq 1) 2, .settled (.seq 1) false, .listed [1],
     .attempted (.seq 1) 1, .settled (.seq 1) false, .listed [1]] := by decide

/-- **Age alone quarantines**: the cursor is acknowledged past a deposit that used
up three of its eight attempts. -/
theorem acked_before_budget :
    ¬ ∀ throughSeq past, (acking throughSeq :: past) <:+
        (run (Service.step undecryptable { mailboxId := "m" } id)
          (fresh 0 1 ()) threeDrains).journal →
      ∀ seq, seq ≤ throughSeq → Listed seq past →
        settled (.seq seq) true ∈ past ∨ ∃ attempts ageMs reason contiguous,
          quarantined (.seq seq) attempts ageMs reason contiguous ∈ past ∧
            8 ≤ attempts := by
  intro h
  rw [threeDrains_journal] at h
  rcases h 1 _ (suffix_cons _ _) 1 (le_refl _)
    ⟨[1], by simp, mem_singleton_self 1⟩ with hset | ⟨n, age, reason, c, hq, hn⟩
  · simp at hset
  · simp at hq
    omega

end Runs

end RezChat.Catchup
