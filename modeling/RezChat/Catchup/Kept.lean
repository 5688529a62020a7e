/-
What the parts of a drain leave alone.

Most of a drain pass touches neither the home nor the relay buffer: it counts
failures, arms and drops back-offs, prunes markers and calls the pipeline, and
adds harmless entries to the journal. The two invariants proved of the service
protect different things (one the home, one the home and the buffer) and call
different entries harmless, so the rules are stated for any view of the two and
any class of entries.
-/
import RezChat.Catchup.Service

set_option autoImplicit false

namespace RezChat.Catchup

open Inbox Service List
open Proc

/-- From `s₀` to `s` the protected view of the home and the relay is unchanged,
and only entries of the class `keep` were added to the journal. -/
structure Kept {ρ β : Type} (view : Home → Relay → β) (keep : Event → Bool)
    (s₀ s : State ρ) : Prop where
  view : view s.home s.relay = view s₀.home s₀.relay
  journal : ∃ es : List Event, s.journal = es ++ s₀.journal ∧ ∀ e ∈ es, keep e = true

section Kept

variable {ρ α β : Type} {view : Home → Relay → β} {keep keep' : Event → Bool}
  {cfg : Config} {s₀ s s' : State ρ}

theorem Kept.refl (s : State ρ) : Kept view keep s s := ⟨rfl, [], rfl, by simp⟩

section

variable (h : Kept view keep s₀ s)
include h

theorem Kept.trans (h' : Kept view keep s s') :
    Kept view keep s₀ s' := by
  obtain ⟨es, hes, hq⟩ := h.journal
  obtain ⟨es', hes', hq'⟩ := h'.journal
  refine ⟨h'.view.trans h.view, es' ++ es, ?_, fun e he => ?_⟩
  · rw [hes', hes, append_assoc]
  · rcases mem_append.1 he with he | he
    · exact hq' e he
    · exact hq e he

theorem Kept.mono (hk : ∀ e, keep e = true → keep' e = true) :
    Kept view keep' s₀ s := by
  obtain ⟨es, hes, hq⟩ := h.journal
  exact ⟨h.view, es, hes, fun e he => hk e (hq e he)⟩

theorem Kept.subset {e : Event} (he : e ∈ s₀.journal) :
    e ∈ s.journal := by
  obtain ⟨es, hes, -⟩ := h.journal
  rw [hes]
  exact mem_append_right _ he

/-- An entry outside the class was there before. -/
theorem Kept.mem_of_not {e : Event} (he : e ∈ s.journal)
    (hk : keep e = false) : e ∈ s₀.journal := by
  obtain ⟨es, hes, hq⟩ := h.journal
  rw [hes, mem_append] at he
  rcases he with he | he
  · rw [hq e he] at hk
    exact absurd hk.symm Bool.false_ne_true
  · exact he

theorem Kept.note {e : Event} (he : keep e = true) :
    Kept view keep s₀ (s.noted e) := by
  obtain ⟨es, hes, hq⟩ := h.journal
  refine ⟨h.view, e :: es, ?_, ?_⟩
  · rw [State.noted, hes]
    rfl
  · intro e' he'
    rcases mem_cons.1 he' with rfl | he'
    · exact he
    · exact hq e' he'

/-- A step that keeps the view and the journal. -/
theorem Kept.frame
    (hv : view s'.home s'.relay = view s.home s.relay) (hj : s'.journal = s.journal) :
    Kept view keep s₀ s' :=
  ⟨hv.trans h.view, hj ▸ h.journal⟩

end

/-! ## One rule for each procedure -/

variable {R : α → State ρ → Prop} {E D : State ρ → Prop}

theorem wp_note {e : State ρ → Event} {R : Unit → State ρ → Prop}
    (h : R () (s.noted (e s))) : wp (Service.note e) R E D s :=
  wp_modify h

/-- Whatever the log does, home, relay and journal are kept. -/
theorem wp_inLog_kept {p : Proc ProcessedKv α} (h : Kept view keep s₀ s)
    (hR : ∀ a s', Kept view keep s₀ s' → R a s') (hE : ∀ s', Kept view keep s₀ s' → E s')
    (hD : ∀ s', Kept view keep s₀ s' → D s') : wp (Service.inLog p) R E D s :=
  wp_zoom (wp_any (fun a _ => hR a _ (h.frame rfl rfl))
    (fun _ => hE _ (h.frame rfl rfl)) (fun _ => hD _ (h.frame rfl rfl)))

/-- So are they whatever the pipeline does. -/
theorem wp_inPipeline_kept {p : Proc (Shared ρ) α} (h : Kept view keep s₀ s)
    (hR : ∀ a s', Kept view keep s₀ s' → R a s') (hE : ∀ s', Kept view keep s₀ s' → E s')
    (hD : ∀ s', Kept view keep s₀ s' → D s') : wp (Service.inPipeline p) R E D s :=
  wp_zoom (wp_any (fun a _ => hR a _ (h.frame rfl rfl))
    (fun _ => hE _ (h.frame rfl rfl)) (fun _ => hD _ (h.frame rfl rfl)))

theorem dropBackoff_kept (id : Ident) (h : Kept view keep s₀ s) :
    wp (dropBackoff id) (fun _ => Kept view keep s₀) (fun _ => False)
      (Kept view keep s₀) s :=
  wp_modify (h.frame rfl rfl)

theorem armBackoff_kept (id : Ident) (count : FailureCount) (h : Kept view keep s₀ s) :
    wp (armBackoff id count) (fun _ => Kept view keep s₀) (fun _ => False)
      (Kept view keep s₀) s := by
  unfold armBackoff
  split
  · exact wp_modify (h.frame rfl rfl)
  · exact wp_pure h

theorem clearAttempts_kept (id : Ident) (h : Kept view keep s₀ s) :
    wp (clearAttempts cfg id) (fun _ => Kept view keep s₀) (fun _ => False)
      (Kept view keep s₀) s :=
  wp_tryCatch (wp_inLog_kept h (fun _ _ h' => h') (fun _ h' => wp_pure h')
    (fun _ h' => h'))

theorem forget_kept (id : Ident) (h : Kept view keep s₀ s) :
    wp (forget cfg id) (fun _ => Kept view keep s₀) (fun _ => False)
      (Kept view keep s₀) s :=
  wp_tryCatch (wp_inLog_kept h (fun _ _ h' => h') (fun _ h' => wp_pure h')
    (fun _ h' => h'))

/-- Pruning after a deposit was given up: its counters, its marker and its
back-off. -/
theorem prune_kept (id : Ident) (h : Kept view keep s₀ s) :
    wp (do
        clearAttempts cfg id
        forget cfg id
        dropBackoff id
        pure true)
      (fun skip s' => skip = true ∧ Kept view keep s₀ s') (fun _ => False)
      (Kept view keep s₀) s := by
  refine wp_bind (wp_imp (clearAttempts_kept id h) ?_)
  intro _ s₁ h₁
  refine wp_bind (wp_imp (forget_kept id h₁) ?_)
  intro _ s₂ h₂
  exact wp_bind (wp_imp (dropBackoff_kept id h₂)
    (fun _ _ h₃ => wp_pure ⟨rfl, h₃⟩))

theorem forgetConsumedSeqs_kept (seqs : List Nat) (h : Kept view keep s₀ s) :
    wp (forgetConsumedSeqs cfg seqs) (fun _ => Kept view keep s₀) (fun _ => False)
      (Kept view keep s₀) s := by
  unfold forgetConsumedSeqs
  refine wp_foldlM (fun _ _ => Kept view keep s₀) (fun _ seq _ s₁ h₁ => ?_) seqs () s h
  exact wp_bind (wp_imp (dropBackoff_kept (.seq seq) h₁)
    (fun _ _ h₂ => forget_kept (.seq seq) h₂))

/-- One of the two quarantine bounds is reached. -/
def BoundReached (cfg : Config) (attempts : Nat) (ageMs : Int) : Prop :=
  cfg.maxDecryptAttempts ≤ attempts ∨
    (cfg.maxQuarantineAgeMs ≤ ageMs ∧ quarantineMinAttemptsForAge ≤ attempts)

/-- A counted failure that is over a bound has reached it. -/
theorem boundReached_assess {nowMs : Int} {attempts : Nat} {firstSeenAtMs : Int}
    (h : (assess cfg nowMs attempts firstSeenAtMs).over = true) :
    BoundReached cfg (assess cfg nowMs attempts firstSeenAtMs).attempts
      (assess cfg nowMs attempts firstSeenAtMs).ageMs := by
  simp only [FailureCount.over, assess, Bool.or_eq_true, Bool.and_eq_true,
    decide_eq_true_eq] at h
  exact h.imp id fun ho => ⟨ho.1.2, ho.2⟩

theorem countFailure_kept (id : Ident) (hk : ∀ n, keep (.attempted id n) = true)
    (h : Kept view keep s₀ s) :
    wp (countFailure cfg id)
      (fun counted s' => Kept view keep s₀ s' ∧ ∀ count, counted = some count →
        count.over = true → BoundReached cfg count.attempts count.ageMs)
      (fun _ => False) (Kept view keep s₀) s := by
  unfold countFailure
  refine wp_bind (wp_get (wp_bind (wp_tryCatch (wp_bind
    (wp_inLog_kept h ?_ ?_ (fun _ h' => h'))))))
  · intro attempts s₁ h₁
    have counted : ∀ first s₂, Kept view keep s₀ s₂ → Kept view keep s₀ s₂ ∧ ∀ count,
        some (assess cfg s.clock attempts first) = some count → count.over = true →
          BoundReached cfg count.attempts count.ageMs := by
      intro first s₂ h₂
      refine ⟨h₂, fun count hc hover => ?_⟩
      rw [Option.some_inj] at hc
      subst hc
      exact boundReached_assess hover
    have hn : Kept view keep s₀ (s₁.noted (.attempted id attempts)) := h₁.note (hk attempts)
    refine wp_pure (wp_bind (wp_note (wp_bind (wp_tryCatch
      (wp_inLog_kept hn ?_ ?_ (fun _ h₂ => h₂))))))
    · exact fun first s₂ h₂ => wp_pure (counted first s₂ h₂)
    · exact fun s₂ h₂ => wp_pure (wp_pure (counted 0 s₂ h₂))
  · exact fun s₁ h₁ => wp_pure (wp_pure ⟨h₁, fun _ hc => by cases hc⟩)

theorem submitFrame_kept (port : PipelinePort ρ) (id : Ident) (frame : Frame)
    (hk : ∀ ok, keep (.settled id ok) = true) (h : Kept view keep s₀ s) :
    wp (submitFrame port id frame)
      (fun ok s' => Kept view keep s₀ s' ∧ Event.settled id ok ∈ s'.journal)
      (fun _ => False) (Kept view keep s₀) s := by
  unfold submitFrame
  refine wp_bind (wp_tryCatch (wp_bind (wp_inPipeline_kept h ?_ ?_
    (fun _ h' => h'))))
  · exact fun r s₁ h₁ => wp_pure (wp_bind (wp_note (wp_pure
      ⟨h₁.note (hk _), mem_cons_self⟩)))
  · exact fun s₁ h₁ => wp_pure (wp_bind (wp_note (wp_pure
      ⟨h₁.note (hk _), mem_cons_self⟩)))

theorem retryApplyOutbox_kept (port : PipelinePort ρ)
    (hk : ∀ dedupId, keep (.applyQuarantined dedupId) = true) (h : Kept view keep s₀ s) :
    wp (retryApplyOutbox port cfg) (fun _ => Kept view keep s₀) (fun _ => False)
      (Kept view keep s₀) s := by
  unfold retryApplyOutbox
  refine wp_bind (wp_get (wp_bind (wp_tryCatch (wp_bind
    (wp_inPipeline_kept h ?_ ?_ (fun _ h' => h'))))))
  · intro report s₁ h₁
    refine wp_pure ?_
    exact wp_foldlM (fun _ _ => Kept view keep s₀)
      (fun _ q _ s₂ h₂ => wp_note (h₂.note (hk q.dedupId))) _ _ s₁ h₁
  · exact fun s₁ h₁ => wp_pure (wp_pure h₁)

/-- No entry at all was added. -/
abbrev Unnoted (view : Home → Relay → β) (s₀ s : State ρ) : Prop :=
  Kept view (fun _ => false) s₀ s

theorem Unnoted.journal_eq (h : Unnoted view s₀ s) : s.journal = s₀.journal := by
  obtain ⟨es, hes, hall⟩ := h.journal
  cases es with
  | nil => exact hes
  | cons e es => exact absurd (hall e mem_cons_self) Bool.false_ne_true

theorem Unnoted.kept (h : Unnoted view s₀ s) : Kept view keep s₀ s :=
  h.mono fun _ hf => absurd hf Bool.false_ne_true

/-- The deposit was given up on the way from `s₀` to `s`: a notice went out at a
bound, after which nothing more was noted. -/
def GaveUp (view : Home → Relay → β) (keep : Event → Bool) (cfg : Config) (seq : Nat)
    (contiguous : Bool) (s₀ s : State ρ) : Prop :=
  ∃ attempts ageMs reason s₁, Kept view keep s₀ s₁ ∧ BoundReached cfg attempts ageMs ∧
    Unnoted view (s₁.noted (.quarantined (.seq seq) attempts ageMs reason contiguous)) s

/-- **The failure handler of the durable drain.** Either the deposit stays, with
nothing but attempts on it added, or it was given up. -/
theorem handleDurableFailure_kept (seq : Nat) (contiguous : Bool)
    (hk : ∀ n, keep (.attempted (.seq seq) n) = true) (h : Kept view keep s₀ s) :
    wp (handleDurableFailure cfg seq contiguous)
      (fun skip s' => if skip = true then GaveUp view keep cfg seq contiguous s₀ s'
        else Kept view keep s₀ s')
      (fun _ => False)
      (fun s' => Kept view keep s₀ s' ∨ GaveUp view keep cfg seq contiguous s₀ s') s := by
  unfold handleDurableFailure
  refine wp_bind (wp_mono (countFailure_kept (.seq seq) hk h) ?_
    (fun _ hf => hf) (fun _ hs => Or.inl hs))
  rintro counted s₁ ⟨h₁, hbound⟩
  cases counted with
  | none =>
    refine wp_pure ?_
    rw [if_neg Bool.false_ne_true]
    exact h₁
  | some count =>
    dsimp only
    split
    · rename_i hover
      have gave : ∀ s₂, Unnoted view (s₁.noted (.quarantined (.seq seq) count.attempts
          count.ageMs count.reason contiguous)) s₂ →
          GaveUp view keep cfg seq contiguous s₀ s₂ := fun s₂ h₂ =>
        ⟨count.attempts, count.ageMs, count.reason, s₁, h₁, hbound count rfl hover, h₂⟩
      unfold emitQuarantined
      refine wp_bind (wp_note (wp_mono (prune_kept (.seq seq) (Kept.refl _)) ?_
        (fun _ hf => hf) (fun s₂ h₂ => Or.inr (gave s₂ h₂))))
      rintro skip s₂ ⟨rfl, h₂⟩
      rw [if_pos rfl]
      exact gave s₂ h₂
    · refine wp_bind (wp_mono (armBackoff_kept (.seq seq) count h₁) ?_
        (fun _ hf => hf) (fun _ hs => Or.inl hs))
      intro _ s₂ h₂
      refine wp_pure ?_
      rw [if_neg Bool.false_ne_true]
      exact h₂

end Kept

end RezChat.Catchup
