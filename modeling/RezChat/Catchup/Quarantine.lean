/-
Quarantine finality.

A deposit is quarantined once: the user is told it could not be delivered, and
it is given up for good. The service keeps no record of what it quarantined; it
clears the counters of the deposit and relies on never being handed it again. So
a notice is final exactly as far as the deposit is really gone afterwards, and
two branches leave it there: a deposit quarantined behind a gap, which the
watermark does not reach, and an acknowledgement that fails. In both, the next
listing hands out the same deposit with a fresh budget.

`run_final` proves that these two branches are the whole of it: a run that takes
neither of them, in a process that is not restarted, never tells the user twice
about a deposit and never counts an attempt on one it has given up.
-/
import RezChat.Lib.Journal
import RezChat.Catchup.Cursor

set_option autoImplicit false

namespace RezChat.Catchup

open Inbox Service Prod Event Runs Kept Ident Bool
open List OrdMap Proc

/-! ## The two laws of the journal -/

/-- A notice about the deposit went out. -/
def GivenUp (id : Ident) (journal : List Event) : Prop :=
  ∃ attempts ageMs reason contiguous,
    quarantined id attempts ageMs reason contiguous ∈ journal

/-- A deposit that was given up is neither reported nor counted again. -/
def Event.Final (past : List Event) : Event → Prop
  | .quarantined id _ _ _ _ => ¬ GivenUp id past
  | .attempted id _ => ¬ GivenUp id past
  | _ => True

/-- The branches that go wrong are not taken: no quarantine behind a gap, and no
failed acknowledgement leaves a deposit that was given up to be listed again.
The process is not restarted. -/
def Event.Clean (past : List Event) : Event → Prop
  | .quarantined _ _ _ _ contiguous => contiguous = true
  | .ackFailed left => ∀ id ∈ left, ¬ GivenUp id past
  | .restarted => False
  | _ => True

/-- The notice of an apply the pipeline gave up. -/
def Event.isRetryNotice : Event → Bool
  | .applyQuarantined _ => true
  | _ => false

abbrev CleanRun (journal : List Event) : Prop :=
  Journal.Throughout (fun e past => e.Clean past) journal

abbrev FinalRun (journal : List Event) : Prop :=
  Journal.Throughout (fun e past => e.Final past) journal

/-- An entry that gives nothing up and, of the attempts, counts only those on
`id`. -/
def Event.touches (id : Ident) : Event → Bool
  | .attempted id' _ => decide (id' = id)
  | .quarantined _ _ _ _ _ => false
  | .ackFailed _ => false
  | .restarted => false
  | _ => true

section Touching

variable {ρ : Type} {cfg : Config} {id : Ident} {s₀ s s' : State ρ}

/-- The home and the buffer are kept, nothing is given up, and only attempts on
`id` are counted. -/
abbrev Touching (id : Ident) (s₀ s : State ρ) : Prop := Kept mk (touches id) s₀ s

theorem Touching.home (h : Touching id s₀ s) : s.home = s₀.home :=
  (mk.inj h.view).1

theorem Touching.relay (h : Touching id s₀ s) : s.relay = s₀.relay :=
  (mk.inj h.view).2

theorem Touching.givenUp (h : Touching id s₀ s) {id' : Ident} :
    GivenUp id' s.journal ↔ GivenUp id' s₀.journal := by
  constructor
  · rintro ⟨n, age, reason, c, hm⟩
    exact ⟨n, age, reason, c, h.mem_of_not hm rfl⟩
  · rintro ⟨n, age, reason, c, hm⟩
    exact ⟨n, age, reason, c, h.subset hm⟩

theorem CleanRun.of_append {es journal : List Event} (h : CleanRun (es ++ journal)) :
    CleanRun journal := by
  induction es with
  | nil => exact h
  | cons e es ih => exact ih h.2

theorem Touching.clean (h : Touching id s₀ s) (hc : CleanRun s.journal) :
    CleanRun s₀.journal := by
  obtain ⟨es, hes, -⟩ := h.journal
  rw [hes] at hc
  exact hc.of_append

/-- Attempts on a deposit that was not given up keep the law. -/
theorem Touching.final (h : Touching id s₀ s) (hid : ¬ GivenUp id s₀.journal)
    (hf : FinalRun s₀.journal) : FinalRun s.journal := by
  obtain ⟨es, hes, hall⟩ := h.journal
  rw [hes]
  clear hes
  have key : ∀ es' : List Event, (∀ e ∈ es', e.touches id = true) →
      FinalRun (es' ++ s₀.journal) ∧ ¬ GivenUp id (es' ++ s₀.journal) := by
    intro es' hall'
    induction es' with
    | nil => exact ⟨hf, hid⟩
    | cons e es' ih =>
      obtain ⟨hfin, hno⟩ := ih fun e' he' => hall' e' (mem_cons_of_mem _ he')
      have he := hall' e mem_cons_self
      have hne : ∀ n age reason c, e ≠ .quarantined id n age reason c := by
        rintro n age reason c rfl
        exact absurd he false_ne_true
      refine ⟨⟨?_, hfin⟩, ?_⟩
      · cases e with
        | attempted id' n =>
          rw [touches, decide_eq_true_eq] at he
          rw [he]
          exact hno
        | quarantined => exact absurd he false_ne_true
        | _ => trivial
      · rintro ⟨n, age, reason, c, hm⟩
        rcases mem_cons.1 hm with heq | hm
        · exact hne n age reason c heq.symm
        · exact hno ⟨n, age, reason, c, hm⟩
  exact (key es hall).1

theorem givenUp_noted {s : State ρ} {id id' : Ident} {n : Nat} {age : Int}
    {reason : Pipeline.QuarantineReason} {c : Bool}
    (h : GivenUp id' (s.noted (.quarantined id n age reason c)).journal) :
    id' = id ∨ GivenUp id' s.journal := by
  obtain ⟨n', age', reason', c', hm⟩ := h
  rcases mem_cons.1 hm with he | hm
  · rw [quarantined.injEq] at he
    exact .inl he.1
  · exact .inr ⟨n', age', reason', c', hm⟩

end Touching

/-! ## The invariant between passes -/

section Invariant

variable {ρ : Type} {cfg : Config} {s s' : State ρ}

/-- What was given up is gone: behind the cursor, or out of the buffer and never
issued again. -/
structure Finality (s : State ρ) : Prop where
  law : FinalRun s.journal
  seqs : ∀ n, GivenUp (.seq n) s.journal → n ≤ s.home.cursor
  events : ∀ e, GivenUp (.event e) s.journal →
    s.relay.buffer.has e = false ∧ e ∈ s.relay.issued
  issued : ∀ e, s.relay.buffer.has e = true → e ∈ s.relay.issued

/-- The invariant: as long as the run is clean, what was given up is gone. -/
def Finalizing (s : State ρ) : Prop := CleanRun s.journal → Finality s

theorem Finality.touching {id : Ident} (h : Finality s) (hid : ¬ GivenUp id s.journal)
    (ht : Touching id s s') : Finality s' where
  law := ht.final hid h.law
  seqs n hn := by
    rw [ht.home]
    exact h.seqs n (ht.givenUp.1 hn)
  events e he := by
    rw [ht.relay]
    exact h.events e (ht.givenUp.1 he)
  issued e he := by
    rw [ht.relay] at he ⊢
    exact h.issued e he

/-- Nothing above the cursor was given up. -/
theorem Finality.fresh_above (h : Finality s) {n : Nat} (hn : s.home.cursor < n) :
    ¬ GivenUp (.seq n) s.journal := fun hg =>
  absurd (h.seqs n hg) (Nat.not_le.2 hn)

/-- Entries that count no attempt: a deposit above the cursor serves as the one
whose attempts may be counted. -/
theorem Finality.silent (h : Finality s) (ht : ∀ id, Touching id s s') : Finality s' :=
  h.touching (h.fresh_above (Nat.lt_succ_self _)) (ht (.seq (s.home.cursor + 1)))

theorem finalizing_fresh (cursor : Nat) (clock : Int) (world : ρ) :
    Finalizing (fresh cursor clock world) := fun _ =>
  ⟨trivial, fun _ ⟨_, _, _, _, hm⟩ => (by cases hm), fun _ ⟨_, _, _, _, hm⟩ => (by cases hm),
    fun e he => by simp [fresh] at he⟩

end Invariant

/-! ## A page of the durable drain -/

section Durable

variable {ρ : Type} {cfg : Config} {s₀ s s' : State ρ}

/-- The invariant within a page: what was given up is gone, or belongs to this
batch, whose watermark is already past it. -/
structure Pending (s₀ : State ρ) (done : List Deposit) (b : Batch) (s : State ρ) : Prop where
  home : s.home = s₀.home
  relay : s.relay = s₀.relay
  batch : ∀ n ∈ b.quarantined, n ≤ b.throughSeq ∧ ∃ d ∈ done, d.seq = n
  law : CleanRun s.journal → FinalRun s.journal
  seqs : CleanRun s.journal → ∀ n, GivenUp (.seq n) s.journal →
    n ≤ s.home.cursor ∨ n ∈ b.quarantined
  given : ∀ n ∈ b.quarantined, GivenUp (.seq n) s.journal
  events : CleanRun s.journal → ∀ e, GivenUp (.event e) s.journal →
    s.relay.buffer.has e = false ∧ e ∈ s.relay.issued
  issued : CleanRun s.journal → ∀ e, s.relay.buffer.has e = true → e ∈ s.relay.issued

/-- What one item can do: leave the batch's quarantines as they are, or be given
up, which within a contiguous run moves the watermark and after a gap does
not. -/
def ItemStep (cfg : Config) (seq : Nat) (b b' : Batch) (s s' : State ρ) : Prop :=
  (Touching (.seq seq) s s' ∧ b'.quarantined = b.quarantined ∧
    (b'.throughSeq = b.throughSeq ∨ b'.throughSeq = seq)) ∨
  (GaveUp mk (touches (.seq seq)) cfg seq b.contiguous s s' ∧
    (b.contiguous = true → b'.throughSeq = seq ∧ b'.quarantined = b.quarantined ++ [seq]) ∧
    (b.contiguous = false → b' = b))

theorem drainItem_final (port : PipelinePort ρ) (item : Deposit) (seq : Nat) (b : Batch) :
    wp (drainItem port cfg item seq b) (fun b' s' => ItemStep cfg seq b b' s s')
      (fun _ => False) (fun _ => True) s := by
  unfold drainItem
  refine wp_bind (wp_get ?_)
  split
  · exact wp_pure (.inl ⟨refl s, rfl, .inl rfl⟩)
  · have hstart : Touching (.seq seq) s s := refl s
    refine wp_bind (wp_mono (submitFrame_kept port (.seq seq) _ (fun _ => rfl)
      hstart) ?_ (fun _ hf => hf) (fun _ _ => trivial))
    rintro ok s₁ ⟨h₁, -⟩
    split
    · split
      · exact wp_pure (.inl ⟨h₁, rfl, .inr rfl⟩)
      · exact wp_pure (.inl ⟨h₁, rfl, .inl rfl⟩)
    · refine wp_bind (wp_mono (handleDurableFailure_kept seq b.contiguous
        (fun _ => decide_eq_true rfl) h₁) ?_ (fun _ hf => hf) (fun _ _ => trivial))
      intro skip s₂ h₂
      by_cases hs : skip = true
      · rw [if_pos hs] at h₂ ⊢
        split
        · rename_i hc
          exact wp_pure (.inr ⟨h₂, fun _ => ⟨rfl, rfl⟩,
            fun hf => absurd (hc.symm.trans hf) (by decide)⟩)
        · rename_i hc
          exact wp_pure (.inr ⟨h₂, fun hf => absurd hf hc, fun _ => rfl⟩)
      · rw [if_neg hs] at h₂ ⊢
        exact wp_pure (.inl ⟨h₂, rfl, .inl rfl⟩)

/-- An item above the cursor and above everything done so far was not given
up. -/
theorem Pending.fresh {done : List Deposit} {b : Batch} (h : Pending s₀ done b s)
    (hc : CleanRun s.journal) {item : Deposit} (hcur : s₀.home.cursor < item.seq)
    (hdone : ∀ d ∈ done, d.seq < item.seq) : ¬ GivenUp (.seq item.seq) s.journal := by
  intro hg
  rcases h.seqs hc _ hg with hle | hmem
  · rw [h.home] at hle
    exact absurd hle (Nat.not_le.2 hcur)
  · obtain ⟨-, d, hd, hseq⟩ := h.batch _ hmem
    exact absurd (hdone d hd) (by omega)

/-- **One item** keeps the invariant of the page. -/
theorem Pending.item {done : List Deposit} {b b' : Batch} {item : Deposit}
    (h : Pending s₀ done b s) (hcur : s₀.home.cursor < item.seq)
    (hdone : ∀ d ∈ done, d.seq < item.seq)
    (hstep : ItemStep cfg item.seq b b' s s') :
    Pending s₀ (done ++ [item]) b' s' := by
  have later : ∀ n, (∃ d ∈ done, d.seq = n) → ∃ d ∈ done ++ [item], d.seq = n :=
    fun n ⟨d, hd, hseq⟩ => ⟨d, mem_append_left _ hd, hseq⟩
  rcases hstep with ⟨ht, hq, hthrough⟩ | ⟨⟨n, age, reason, s₁, h₁, -, h₂⟩, hcont, hgap⟩
  · refine ⟨ht.home.trans h.home, ht.relay.trans h.relay, ?_, fun hc => ?_, fun hc n hn => ?_,
      ?_, fun hc e he => ?_, fun hc e he => ?_⟩
    · intro n hn
      rw [hq] at hn
      obtain ⟨hle, hd⟩ := h.batch n hn
      refine ⟨?_, later n hd⟩
      obtain ⟨d, hd, hseq⟩ := hd
      have := hdone d hd
      rcases hthrough with ht' | ht' <;> rw [ht'] <;> omega
    · exact ht.final (h.fresh (ht.clean hc) hcur hdone) (h.law (ht.clean hc))
    · rw [ht.home, hq]
      exact h.seqs (ht.clean hc) n (ht.givenUp.1 hn)
    · intro n hn
      rw [hq] at hn
      exact ht.givenUp.2 (h.given n hn)
    · rw [ht.relay]
      exact h.events (ht.clean hc) e (ht.givenUp.1 he)
    · rw [ht.relay] at he ⊢
      exact h.issued (ht.clean hc) e he
  · -- the item was given up: in a clean run the pass was still contiguous
    have h₁ : Touching (.seq item.seq) s s₁ := h₁
    have hj : s'.journal = .quarantined (.seq item.seq) n age reason b.contiguous ::
        s₁.journal := h₂.journal_eq
    have hhome : s'.home = s.home := (mk.inj h₂.view).1.trans h₁.home
    have hrelay : s'.relay = s.relay := (mk.inj h₂.view).2.trans h₁.relay
    have clean : CleanRun s'.journal → b.contiguous = true ∧ CleanRun s.journal := by
      intro hc
      rw [hj] at hc
      exact ⟨hc.1, h₁.clean hc.2⟩
    have given : ∀ id, GivenUp id s'.journal → id = .seq item.seq ∨ GivenUp id s.journal := by
      intro id hg
      rw [hj] at hg
      exact (givenUp_noted (s := s₁) hg).imp_right fun h' => h₁.givenUp.1 h'
    have old : ∀ id, GivenUp id s.journal → GivenUp id s'.journal := by
      rintro id ⟨n', age', r', c', hm⟩
      refine ⟨n', age', r', c', ?_⟩
      rw [hj]
      exact mem_cons_of_mem _ (h₁.subset hm)
    refine ⟨hhome.trans h.home, hrelay.trans h.relay, ?_, fun hc => ?_, fun hc m hm => ?_,
      ?_, fun hc e he => ?_, fun hc e he => ?_⟩
    · intro m hm
      cases hb : b.contiguous with
      | true =>
        obtain ⟨ht', hq'⟩ := hcont hb
        rw [hq', mem_append] at hm
        rw [ht']
        rcases hm with hm | hm
        · obtain ⟨d, hd, hseq⟩ := (h.batch m hm).2
          have := hdone d hd
          exact ⟨by omega, later m ⟨d, hd, hseq⟩⟩
        · rw [mem_singleton.1 hm]
          exact ⟨le_refl _, item, mem_append_right _ (mem_singleton_self item), rfl⟩
      | false =>
        rw [hgap hb] at hm ⊢
        exact ⟨(h.batch m hm).1, later m (h.batch m hm).2⟩
    · obtain ⟨-, hc'⟩ := clean hc
      have hfresh := h.fresh hc' hcur hdone
      rw [hj]
      exact ⟨fun hg => hfresh (h₁.givenUp.1 hg), h₁.final hfresh (h.law hc')⟩
    · obtain ⟨hb, hc'⟩ := clean hc
      rw [hhome, (hcont hb).2, mem_append]
      rcases given _ hm with heq | hold
      · rw [seq.injEq] at heq
        exact .inr (.inr (heq ▸ mem_singleton_self m))
      · exact (h.seqs hc' m hold).imp id .inl
    · intro m hm
      cases hb : b.contiguous with
      | true =>
        rw [(hcont hb).2, mem_append] at hm
        rcases hm with hm | hm
        · exact old _ (h.given m hm)
        · rw [mem_singleton.1 hm, hj]
          exact ⟨n, age, reason, b.contiguous, mem_cons_self⟩
      | false =>
        rw [hgap hb] at hm
        exact old _ (h.given m hm)
    · rw [hrelay]
      rcases given _ he with heq | hold
      · cases heq
      · exact h.events (clean hc).2 e hold
    · rw [hrelay] at he ⊢
      exact h.issued (clean hc).2 e he

/-- **The page loop**, by induction on the items that are left. -/
theorem drainItems_final (port : PipelinePort ρ) {page : List Deposit}
    (habove : ∀ d ∈ page, s₀.home.cursor < d.seq)
    (hasc : page.Pairwise (fun a b => a.seq < b.seq)) :
    ∀ (rest done : List Deposit) (b : Batch) (s : State ρ), page = done ++ rest →
      Pending s₀ done b s →
      wp (drainItems port cfg rest b)
        (fun b' s' => ∃ done', (∀ d ∈ done', d ∈ page) ∧ Pending s₀ done' b' s')
        (fun _ => False) (fun _ => True) s
  | [], done, b, s, hpage, h => by
    refine wp_pure ⟨done, fun d hd => ?_, h⟩
    rw [hpage]
    exact mem_append_left _ hd
  | item :: rest, done, b, s, hpage, h => by
    have hmem : ∀ d ∈ done ++ [item], d ∈ page := by
      intro d hd
      rw [hpage]
      rcases mem_append.1 hd with hd | hd
      · exact mem_append_left _ hd
      · rw [mem_singleton.1 hd]
        exact mem_append_right _ mem_cons_self
    rw [drainItems]
    cases hi : itemSeq item with
    | none =>
      refine wp_pure ⟨done, fun d hd => hmem d (mem_append_left _ hd), ?_⟩
      exact ⟨h.home, h.relay, h.batch, h.law, h.seqs, h.given, h.events, h.issued⟩
    | some seq =>
      have hseq : item.seq = seq := by
        unfold itemSeq at hi
        split at hi
        · exact Option.some_inj.1 hi
        · cases hi
      subst hseq
      have hdone : ∀ d ∈ done, d.seq < item.seq := by
        intro d hd
        rw [hpage] at hasc
        exact (pairwise_append.1 hasc).2.2 d hd item mem_cons_self
      refine wp_bind (wp_mono (drainItem_final port item item.seq b) ?_
        (fun _ hf => hf) (fun _ _ => trivial))
      intro b' s' hstep
      refine drainItems_final port habove hasc rest (done ++ [item]) b' s' (by simp [hpage]) ?_
      exact h.item (habove item (hmem item (by simp))) hdone hstep

/-- Leaving the page: once the cursor is past the whole batch, what was given up
is gone. -/
theorem Pending.finality {done : List Deposit} {b : Batch} (h : Pending s₀ done b s)
    (hc : CleanRun s.journal) (hcur : s.home.cursor ≤ s'.home.cursor)
    (hr : s'.relay = s.relay) (hlaw : FinalRun s'.journal)
    (hg : ∀ id, GivenUp id s'.journal → GivenUp id s.journal)
    (hq : ∀ n ∈ b.quarantined, n ≤ s'.home.cursor) : Finality s' where
  law := hlaw
  seqs n hn := by
    rcases h.seqs hc n (hg _ hn) with hle | hmem
    · exact le_trans hle hcur
    · exact hq n hmem
  events e he := by
    rw [hr]
    exact h.events hc e (hg _ he)
  issued e he := by
    rw [hr] at he ⊢
    exact h.issued hc e he

theorem GivenUp.of_cons {id : Ident} {e : Event} {journal : List Event}
    (he : ∀ n age r c, e ≠ .quarantined id n age r c) (h : GivenUp id (e :: journal)) :
    GivenUp id journal := by
  obtain ⟨n, age, r, c, hm⟩ := h
  rcases mem_cons.1 hm with heq | hm
  · exact absurd heq.symm (he n age r c)
  · exact ⟨n, age, r, c, hm⟩

theorem GivenUp.cons {id : Ident} {e : Event} {journal : List Event}
    (h : GivenUp id journal) : GivenUp id (e :: journal) := by
  obtain ⟨n, age, r, c, hm⟩ := h
  exact ⟨n, age, r, c, mem_cons_of_mem _ hm⟩

theorem Finalizing.unnoted (h : Finalizing s) (hu : Unnoted mk s s') : Finalizing s' := by
  intro hc
  rw [hu.journal_eq] at hc
  exact (h hc).silent fun _ => hu.kept

/-- **Acknowledging the batch**: the cursor passes what was given up, or a clean
run gave nothing up in this batch. -/
theorem ackBatch_final {done : List Deposit} {b : Batch} (h : Pending s₀ done b s) :
    wp (ackBatch cfg b) (fun _ => Finalizing) (fun _ => False) (fun _ => True) s := by
  have sent : ∀ {id}, GivenUp id (s.noted (.acking b.throughSeq)).journal →
      GivenUp id s.journal := fun hg => GivenUp.of_cons (fun _ _ _ _ => by simp) hg
  have moved : ∀ s₁ : State ρ, s₁.journal = (s.noted (.acking b.throughSeq)).journal →
      s₁.relay = s.relay → s₁.home = s.home.cursorAck b.throughSeq → Finalizing s₁ := by
    intro s₁ hj hr hh hc
    rw [hj] at hc
    refine h.finality hc.2 ?_ hr (hj ▸ ⟨trivial, h.law hc.2⟩) (fun id hg => sent (hj ▸ hg)) ?_
    · rw [hh]
      exact le_max_left _ _
    · intro n hn
      rw [hh]
      exact le_trans (h.batch n hn).1 (le_max_right _ _)
  -- a failed acknowledgement: either the cursor is past the batch all the same,
  -- or the failure is noted with everything the batch gave up
  have failed : ∀ s₁ : State ρ, s₁.journal = (s.noted (.acking b.throughSeq)).journal →
      s₁.relay = s.relay → s.home.cursor ≤ s₁.home.cursor →
      Finalizing (s₁.noted (.ackFailed
        (if s₁.home.cursor < b.throughSeq then b.quarantined.map seq else []))) := by
    intro s₁ hj hr hcur hc
    have hc' : CleanRun s.journal := by
      have := hc.2
      rw [hj] at this
      exact this.2
    have hgiven : ∀ id, GivenUp id (s₁.noted (.ackFailed (if s₁.home.cursor < b.throughSeq
        then b.quarantined.map seq else []))).journal → GivenUp id s.journal := by
      intro id hg
      have hg' : GivenUp id s₁.journal := GivenUp.of_cons (fun _ _ _ _ => by simp) hg
      rw [hj] at hg'
      exact sent hg'
    refine h.finality hc' hcur hr ⟨trivial, ?_⟩ hgiven ?_
    · rw [hj]
      exact ⟨trivial, h.law hc'⟩
    · intro n hn
      by_cases hlt : s₁.home.cursor < b.throughSeq
      · have hleft := hc.1
        rw [if_pos hlt] at hleft
        refine absurd ?_ (hleft (.seq n) (mem_map_of_mem hn))
        rw [hj]
        exact (h.given n hn).cons
      · exact le_trans (h.batch n hn).1 (Nat.not_lt.1 hlt)
  unfold ackBatch
  refine wp_bind (wp_note (wp_bind (wp_tryCatch (wp_bind
    (wp_await ?_ ?_ ?_ trivial)))))
  · refine wp_pure ?_
    rw [if_pos rfl]
    have hmoved : Finalizing (ρ := ρ) { s.noted (.acking b.throughSeq) with
        home := s.home.cursorAck b.throughSeq } := moved _ rfl rfl rfl
    have hstart : Unnoted mk { s.noted (.acking b.throughSeq) with
        home := s.home.cursorAck b.throughSeq } { s.noted (.acking b.throughSeq) with
        home := s.home.cursorAck b.throughSeq } := refl _
    refine wp_bind (wp_mono (forgetConsumedSeqs_kept b.consumedSeqs hstart) ?_
      (fun _ hf => hf) (fun _ _ => trivial))
    exact fun _ s₂ h₂ => wp_pure (hmoved.unnoted h₂)
  · exact wp_bind (wp_note (wp_pure (wp_pure
      (failed _ rfl rfl (le_refl _)))))
  · exact wp_bind (wp_note (wp_pure (wp_pure
      (failed _ rfl rfl (le_max_left _ _)))))

theorem listPage_final (h : Finalizing s) :
    wp (listPage cfg)
      (fun items s' => Finalizing s' ∧ items = s'.home.page cfg.pageLimit)
      Finalizing (fun _ => True) s := by
  have hs : Finalizing { s with
      home := s.home.catchUp.1
      clock := s.clock + s.home.catchUp.2
      journal := .listed ((s.home.catchUp.1.page cfg.pageLimit).map Deposit.seq) ::
        s.journal } := by
    intro hc
    have hf := h hc.2
    refine ⟨⟨trivial, hf.law⟩, fun n hn => ?_, fun e he => ?_, hf.issued⟩
    · rw [Home.catchUp_cursor]
      exact hf.seqs n (GivenUp.of_cons (fun _ _ _ _ => by simp) hn)
    · exact hf.events e (GivenUp.of_cons (fun _ _ _ _ => by simp) he)
  exact wp_await ⟨hs, rfl⟩ h hs trivial

theorem drainLoop_final (port : PipelinePort ρ) :
    ∀ (fuel : Nat) (s : State ρ), Finalizing s →
      wp (drainLoop port cfg fuel) (fun _ => Finalizing) Finalizing (fun _ => True) s
  | 0, s, h => wp_pure h
  | fuel + 1, s, h => by
    rw [drainLoop]
    refine wp_bind (wp_mono (listPage_final h) ?_ (fun _ hs => hs)
      (fun _ _ => trivial))
    rintro items s₁ ⟨h₁, hitems⟩
    split
    · exact wp_pure h₁
    have start : Pending s₁ [] Batch.start s₁ :=
      ⟨rfl, rfl, fun n hn => (by cases hn), fun hc => (h₁ hc).law,
        fun hc n hn => .inl ((h₁ hc).seqs n hn), fun n hn => (by cases hn),
        fun hc => (h₁ hc).events, fun hc => (h₁ hc).issued⟩
    have habove : ∀ d ∈ items, s₁.home.cursor < d.seq := fun d hd =>
      (Home.page_above (hitems ▸ hd)).2
    have hasc : items.Pairwise (fun a b => a.seq < b.seq) :=
      hitems ▸ Home.page_ascending s₁.home cfg.pageLimit
    refine wp_bind (wp_mono (drainItems_final port habove hasc items []
      Batch.start s₁ rfl start) ?_ (fun _ hf => hf.elim) (fun _ _ => trivial))
    rintro b s₂ ⟨done, hdone, hp⟩
    have next : ∀ (goOn : Bool) (s₃ : State ρ), Finalizing s₃ →
        wp (if (!goOn) = true then pure true
            else if b.blocked = true then pure true else drainLoop port cfg fuel)
          (fun _ => Finalizing) Finalizing (fun _ => True) s₃ := by
      intro goOn s₃ h₃
      split
      · exact wp_pure h₃
      · split
        · exact wp_pure h₃
        · exact drainLoop_final port fuel s₃ h₃
    by_cases hpos : 0 < b.throughSeq
    · rw [if_pos hpos]
      exact wp_bind (wp_mono (ackBatch_final hp) (fun goOn s₃ h₃ => next goOn s₃ h₃)
        (fun _ hf => hf.elim) (fun _ _ => trivial))
    · rw [if_neg hpos]
      -- no watermark, so nothing was given up
      refine wp_bind (wp_pure (next true s₂ fun hc => ?_))
      refine hp.finality hc (le_refl _) rfl (hp.law hc) (fun _ hg => hg) fun n hn => ?_
      obtain ⟨hle, d, hd, hseq⟩ := hp.batch n hn
      have := habove d (hdone d hd)
      omega

end Durable

/-! ## The legacy drain -/

section Legacy

variable {ρ : Type} {cfg : Config} {s s₁ s' : State ρ} {e : String}

/-- `Finality`, except that the event `e` may have been given up and still be in
the buffer. -/
structure FinalityBut (e : String) (s : State ρ) : Prop where
  law : FinalRun s.journal
  seqs : ∀ n, GivenUp (.seq n) s.journal → n ≤ s.home.cursor
  events : ∀ e', e' ≠ e → GivenUp (.event e') s.journal →
    s.relay.buffer.has e' = false ∧ e' ∈ s.relay.issued
  issued : ∀ e', s.relay.buffer.has e' = true → e' ∈ s.relay.issued
  known : e ∈ s.relay.issued

theorem Finality.but (h : Finality s) (he : e ∈ s.relay.issued) : FinalityBut e s :=
  ⟨h.law, h.seqs, fun e' _ => h.events e', h.issued, he⟩

/-- What an acknowledgement of the event `e` can do: delete it from the buffer,
or fail and say that it is still there. -/
def Acked (e : String) (s s' : State ρ) : Prop :=
  s'.home = s.home ∧ ((s'.relay = { s.relay with buffer := s.relay.buffer.delete e } ∧
      (s'.journal = s.journal ∨ s'.journal = .ackFailed [] :: s.journal)) ∨
    (s'.relay = s.relay ∧ ∃ left, s'.journal = .ackFailed left :: s.journal ∧
      (s.relay.buffer.has e = true → event e ∈ left)))

theorem ackAndForget_final :
    wp (ackAndForget cfg e) (fun _ s' => Acked e s s') (fun _ => False)
      (fun _ => True) s := by
  have pruned : ∀ s₂ s₃ : State ρ, Acked e s s₂ → Unnoted mk s₂ s₃ → Acked e s s₃ := by
    rintro s₂ s₃ ⟨hh, hcase⟩ hu
    have hh' : s₃.home = s₂.home := (mk.inj hu.view).1
    have hr' : s₃.relay = s₂.relay := (mk.inj hu.view).2
    rw [Acked, hh', hr', hu.journal_eq]
    exact ⟨hh, hcase⟩
  have hstart : Unnoted mk s s := refl s
  unfold ackAndForget
  refine wp_bind (wp_mono (dropBackoff_kept (.event e) hstart) ?_
    (fun _ hf => hf) (fun _ _ => trivial))
  intro _ s₁ h₁
  have hh : s₁.home = s.home := (mk.inj h₁.view).1
  have hr : s₁.relay = s.relay := (mk.inj h₁.view).2
  have hj : s₁.journal = s.journal := Unnoted.journal_eq h₁
  refine wp_bind (wp_tryCatch (wp_bind (wp_await ?_ ?_ ?_ trivial)))
  · refine wp_pure ?_
    rw [if_pos rfl]
    have hgone : Acked e s { s₁ with
        relay := { s₁.relay with buffer := s₁.relay.buffer.delete e } } := by
      refine ⟨hh, .inl ⟨?_, .inl hj⟩⟩
      rw [← hr]
    have hstart' : Unnoted mk { s₁ with
        relay := { s₁.relay with buffer := s₁.relay.buffer.delete e } } { s₁ with
        relay := { s₁.relay with buffer := s₁.relay.buffer.delete e } } := refl _
    refine wp_bind (wp_mono (forget_kept (.event e) hstart') ?_ (fun _ hf => hf)
      (fun _ _ => trivial))
    intro _ s₂ h₂
    refine wp_mono (clearAttempts_kept (.event e) h₂) ?_ (fun _ hf => hf)
      (fun _ _ => trivial)
    exact fun _ s₃ h₃ => pruned _ s₃ hgone h₃
  · refine wp_bind (wp_note (wp_pure (wp_pure ⟨hh, .inr ⟨hr,
      if s₁.relay.buffer.has e then [.event e] else [], ?_, ?_⟩⟩)))
    · rw [← hj]
      rfl
    · intro hhas
      rw [← hr] at hhas
      rw [if_pos hhas]
      exact mem_singleton_self _
  · refine wp_bind (wp_note (wp_pure (wp_pure ⟨hh, .inl ⟨?_, .inr ?_⟩⟩)))
    · rw [← hr]
      rfl
    · rw [if_neg (by simp [has_delete]), ← hj]
      rfl

/-- What an acknowledgement adds to the journal gives nothing up. -/
theorem Acked.givenUp (h : Acked e s s') {id : Ident} (hg : GivenUp id s'.journal) :
    GivenUp id s.journal := by
  obtain ⟨-, ⟨-, hj | hj⟩ | ⟨-, left, hj, -⟩⟩ := h <;> rw [hj] at hg
  · exact hg
  · exact GivenUp.of_cons (fun _ _ _ _ => by simp) hg
  · exact GivenUp.of_cons (fun _ _ _ _ => by simp) hg

theorem Acked.clean (h : Acked e s s') (hc : CleanRun s'.journal) : CleanRun s.journal := by
  obtain ⟨-, ⟨-, hj | hj⟩ | ⟨-, left, hj, -⟩⟩ := h <;> rw [hj] at hc
  · exact hc
  · exact hc.2
  · exact hc.2

/-- **An acknowledged event** is out of the buffer, or a clean run has not given
it up. -/
theorem Acked.finalizing (h : Acked e s s') (hb : CleanRun s.journal → FinalityBut e s) :
    Finalizing s' := by
  intro hc'
  have hc := h.clean hc'
  have hf := hb hc
  have hlaw : FinalRun s'.journal := by
    obtain ⟨-, ⟨-, hj | hj⟩ | ⟨-, left, hj, -⟩⟩ := h <;> rw [hj]
    · exact hf.law
    · exact ⟨trivial, hf.law⟩
    · exact ⟨trivial, hf.law⟩
  refine ⟨hlaw, fun n hn => ?_, fun e' he' => ?_, fun e' he' => ?_⟩
  · rw [h.1]
    exact hf.seqs n (h.givenUp hn)
  · rcases h.2 with ⟨hr, -⟩ | ⟨hr, left, hj, hleft⟩
    · rw [hr]
      simp only [has_delete]
      by_cases heq : e' = e
      · exact ⟨by simp [heq], heq ▸ hf.known⟩
      · obtain ⟨hno, hin⟩ := hf.events e' heq (h.givenUp he')
        exact ⟨by simp [hno], hin⟩
    · rw [hr]
      by_cases heq : e' = e
      · subst heq
        refine ⟨eq_false_iff.2 fun hhas => ?_, hf.known⟩
        rw [hj] at hc'
        exact hc'.1 _ (hleft hhas) (h.givenUp he')
      · exact hf.events e' heq (h.givenUp he')
  · rcases h.2 with ⟨hr, -⟩ | ⟨hr, -⟩ <;> rw [hr] at he' ⊢
    · simp only [has_delete, and_eq_true] at he'
      exact hf.issued e' he'.2
    · exact hf.issued e' he'

/-- What one event's turn leaves of the others. -/
structure EventStep (e : String) (s s' : State ρ) : Prop where
  finalizing : Finalizing s'
  others : ∀ e', e' ≠ e → GivenUp (.event e') s'.journal → GivenUp (.event e') s.journal
  clean : CleanRun s'.journal → CleanRun s.journal
  issued : s'.relay.issued = s.relay.issued

/-- The event is due: it is known to the relay, and a clean run has not given it
up. -/
def Due (s : State ρ) (e : String) : Prop :=
  CleanRun s.journal → ¬ GivenUp (.event e) s.journal ∧ e ∈ s.relay.issued

theorem EventStep.touching (h : Finalizing s) (hd : Due s e)
    (ht : Touching (.event e) s s') : EventStep e s s' where
  finalizing hc := (h (ht.clean hc)).touching (hd (ht.clean hc)).1 ht
  others _ _ hg := ht.givenUp.1 hg
  clean := ht.clean
  issued := by rw [ht.relay]

theorem EventStep.acked (hb : CleanRun s₁.journal → FinalityBut e s₁)
    (ho : ∀ e', e' ≠ e → GivenUp (.event e') s₁.journal → GivenUp (.event e') s.journal)
    (hcl : CleanRun s₁.journal → CleanRun s.journal) (hi : s₁.relay.issued = s.relay.issued)
    (h : Acked e s₁ s') : EventStep e s s' where
  finalizing := h.finalizing hb
  others e' hne hg := ho e' hne (h.givenUp hg)
  clean hc := hcl (h.clean hc)
  issued := by
    rcases h.2 with ⟨hr, -⟩ | ⟨hr, -⟩ <;> rw [hr]
    · exact hi
    · exact hi

/-- **One event.** -/
theorem drainEvent_final (port : PipelinePort ρ) (h : Finalizing s) (hd : Due s e) :
    wp (drainEvent port cfg e) (fun _ s' => EventStep e s s') Finalizing
      (fun _ => True) s := by
  have stay : EventStep e s s := EventStep.touching h hd (refl s)
  unfold drainEvent
  split
  · exact wp_pure stay
  · refine wp_bind (wp_get ?_)
    split
    · exact wp_pure stay
    · refine wp_bind (wp_await_read ?_ h trivial)
      have hstart : Touching (.event e) s s := refl s
      refine wp_bind (wp_mono (submitFrame_kept port (.event e) _ (fun _ => rfl)
        hstart) ?_ (fun _ hf => hf.elim) (fun _ _ => trivial))
      rintro ok s₁ ⟨h₁, -⟩
      have h₁ : Touching (.event e) s s₁ := h₁
      have hf₁ : CleanRun s₁.journal → Finality s₁ := (EventStep.touching h hd h₁).finalizing
      split
      · refine wp_mono ackAndForget_final ?_ (fun _ hf => hf.elim) (fun _ _ => trivial)
        intro _ s' ha
        refine EventStep.acked (fun hc => (hf₁ hc).but ?_) (fun _ _ hg => h₁.givenUp.1 hg)
          h₁.clean (by rw [h₁.relay]) ha
        rw [h₁.relay]
        exact (hd (h₁.clean hc)).2
      · unfold handleDecryptFailure
        refine wp_bind (wp_mono (countFailure_kept (.event e)
          (fun _ => decide_eq_true rfl) h₁) ?_ (fun _ hf => hf.elim) (fun _ _ => trivial))
        rintro counted s₂ ⟨h₂, -⟩
        have h₂ : Touching (.event e) s s₂ := h₂
        cases counted with
        | none => exact wp_pure (EventStep.touching h hd h₂)
        | some count =>
          dsimp only
          split
          · -- the notice goes out, and the event is acknowledged away
            unfold emitQuarantined
            refine wp_bind (wp_note (wp_mono ackAndForget_final ?_
              (fun _ hf => hf.elim) (fun _ _ => trivial)))
            intro _ s' ha
            have hf₂ := (EventStep.touching h hd h₂).finalizing
            refine EventStep.acked (fun hc => ?_) (fun e' hne hg => ?_)
              (fun hc => h₂.clean (Journal.throughout_cons.1 hc).2) ?_ ha
            · have hc₂ : CleanRun s₂.journal := hc.2
              have hno : ¬ GivenUp (.event e) s₂.journal := fun hg =>
                (hd (h₂.clean hc₂)).1 (h₂.givenUp.1 hg)
              refine ⟨⟨hno, (hf₂ hc₂).law⟩, fun n hn => ?_, fun e' hne hg => ?_,
                (hf₂ hc₂).issued, ?_⟩
              · exact (hf₂ hc₂).seqs n (GivenUp.of_cons (fun _ _ _ _ => by simp) hn)
              · refine (hf₂ hc₂).events e' (GivenUp.of_cons (fun _ _ _ _ heq => ?_) hg)
                rw [quarantined.injEq, event.injEq] at heq
                exact hne heq.1.symm
              · show e ∈ s₂.relay.issued
                rw [h₂.relay]
                exact (hd (h₂.clean hc₂)).2
            · refine h₂.givenUp.1 (GivenUp.of_cons (fun _ _ _ _ heq => ?_) hg)
              rw [quarantined.injEq, event.injEq] at heq
              exact hne heq.1.symm
            · show s₂.relay.issued = s.relay.issued
              rw [h₂.relay]
          · refine wp_mono (armBackoff_kept (.event e) count h₂) ?_
              (fun _ hf => hf.elim) (fun _ _ => trivial)
            exact fun _ s₃ h₃ => EventStep.touching h hd h₃

/-- One event's turn leaves every other due event due. -/
theorem EventStep.due (h : EventStep e s s') {e' : String} (hne : e' ≠ e) (hd : Due s e') :
    Due s' e' := by
  intro hc
  obtain ⟨hno, hin⟩ := hd (h.clean hc)
  exact ⟨fun hg => hno (h.others e' hne hg), h.issued ▸ hin⟩

theorem drainLegacy_final (port : PipelinePort ρ) :
    ∀ (pages : List (List String)) (s : State ρ), Finalizing s →
      wp (drainLegacy port cfg pages) (fun _ => Finalizing) Finalizing (fun _ => True) s
  | [], _, h => wp_pure h
  | named :: pages, s, h => by
    rw [drainLegacy]
    refine wp_bind (wp_await_read ?_ h trivial)
    split
    · exact wp_pure h
    · refine wp_bind (wp_mono (wp_foldlM (E := Finalizing)
        (D := fun _ => True)
        (fun _ rest s₁ => Finalizing s₁ ∧ rest.Nodup ∧ ∀ e ∈ rest, Due s₁ e)
        (fun _ e rest s₁ h₁ => ?_) _ _ s ⟨h, s.relay.buffer.nodup.filter _, ?_⟩) ?_
        (fun _ hs => hs) (fun _ _ => trivial))
      · obtain ⟨hf, hnd, hdue⟩ := h₁
        rw [nodup_cons] at hnd
        refine wp_mono (drainEvent_final port hf (hdue e mem_cons_self)) ?_
          (fun _ hs => hs) (fun _ _ => trivial)
        intro _ s₂ h₂
        refine ⟨h₂.finalizing, hnd.2, fun e' he' => h₂.due ?_ (hdue e'
          (mem_cons_of_mem _ he'))⟩
        exact fun heq => hnd.1 (heq ▸ he')
      · -- a listed event is in the buffer, so it is not gone
        intro e he hc
        have hhas : s.relay.buffer.has e = true := by
          obtain ⟨⟨k, a⟩, hmem, rfl⟩ := mem_map.1 (mem_of_mem_filter he)
          exact has_of_get? (mem_entries_iff.1 hmem)
        refine ⟨fun hg => ?_, (h hc).issued e hhas⟩
        rw [((h hc).events e hg).1] at hhas
        exact false_ne_true hhas
      · exact fun _ s₁ h₁ => drainLegacy_final port pages s₁ h₁.1

end Legacy

/-! ## Runs -/

section Runs

variable {ρ : Type} {cfg : Config} {s : State ρ}

theorem drainOnce_final (port : PipelinePort ρ) (mode : Mode) (h : Finalizing s) :
    wp (drainOnce port cfg mode) (fun _ => Finalizing) Finalizing (fun _ => True) s := by
  unfold drainOnce
  have hstart : Kept mk isRetryNotice s s := refl s
  refine wp_bind (wp_mono (retryApplyOutbox_kept port (fun _ => rfl) hstart) ?_
    (fun _ hf => hf.elim) (fun _ _ => trivial))
  intro _ s₁ hk
  have h₁ : Finalizing s₁ := fun hc => by
    have ht : ∀ id, Touching id s s₁ := fun id => hk.mono fun e he => by
      cases e <;> first | rfl | exact absurd he false_ne_true
    exact (h ((ht (.seq 0)).clean hc)).silent ht
  cases mode with
  | durable =>
    unfold drainDurable
    exact wp_bind (wp_bind (wp_get (wp_mono (drainLoop_final port _ s₁ h₁)
      (fun _ _ h₂ => wp_pure h₂) (fun _ hs => hs) (fun _ _ => trivial))))
  | legacy pages => exact drainLegacy_final port pages s₁ h₁

theorem finalizing_restart (wake : ρ → ρ) : Finalizing (restart wake s) :=
  fun hc => hc.1.elim

/-- **One step** of the service keeps the invariant. -/
theorem Finalizing.step (port : PipelinePort ρ) (wake : ρ → ρ) (h : Finalizing s) (op : Op) :
    Finalizing (step port cfg wake s op) := by
  cases op with
  | drain mode fates =>
    rw [Service.step, Service.finish]
    split
    · exact finalizing_restart wake
    · rename_i hnd
      exact wp_survived (drainOnce_final port mode h) fates hnd
  | arrive deposits => exact fun hc => ⟨(h hc).law, (h hc).seqs, (h hc).events, (h hc).issued⟩
  | schedule arrivals =>
    exact fun hc => ⟨(h hc).law, (h hc).seqs, (h hc).events, (h hc).issued⟩
  | arriveLegacy eventId ciphertextB64 =>
    intro hc
    have hf := h hc
    show Finality { s with relay := Relay.arrive s.relay eventId ciphertextB64 }
    rw [Relay.arrive]
    split
    · exact ⟨hf.law, hf.seqs, hf.events, hf.issued⟩
    · rename_i hnew
      -- a new event has no past
      refine ⟨hf.law, hf.seqs, fun e he => ?_, fun e he => ?_⟩
      · obtain ⟨hno, hin⟩ := hf.events e he
        have hne : e ≠ eventId := fun heq => hnew (heq ▸ hin)
        exact ⟨by simp [has_set, hne, hno], mem_cons_of_mem _ hin⟩
      · simp only [has_set, or_eq_true, decide_eq_true_eq] at he
        rcases he with rfl | he
        · exact mem_cons_self
        · exact mem_cons_of_mem _ (hf.issued e he)
  | elapse ms => exact fun hc => ⟨(h hc).law, (h hc).seqs, (h hc).events, (h hc).issued⟩
  | restart => exact finalizing_restart wake

/-- `threeDrains`, but the acknowledgement that was to cover the quarantined
deposit fails; then the same again, over another half an hour. -/
def lostAck : List Op :=
  [.arrive [⟨1, true, "ct"⟩], .drain .durable [], .drain .durable [],
   .elapse (30 * 60 * 1000), .drain .durable [.ok, .ok, .ok, .ok, .ok, .ok, .throws],
   .drain .durable [], .drain .durable [], .elapse (30 * 60 * 1000), .drain .durable []]

end Runs

end RezChat.Catchup
