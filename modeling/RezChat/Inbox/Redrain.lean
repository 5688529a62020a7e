/-
The retry buffer of the inbound pipeline over whole runs (`submit`, `#processAndHeal`,
`#updatePending` and `#redrainPending` of `runtime/InboundDepositPipeline.js`).

Each deposit that goes through `#processOne` is reported in the journal, so what an operation fed
can be read off the reports it added. The argument is that the buffer is a function of them
(`Fed`): an entry is what it was, but for the feeds of its own key. What one pass, the passes of a
re-drain and a whole operation do to an entry is then the same lemma about a list of feeds
(`settled_eq`).
-/
import RezChat.Inbox.HandOver

set_option autoImplicit false

namespace RezChat.Inbox.Pipeline

open List OrdMap Proc ProcessedLog

variable {μ ρ α : Type} {s₀ s s' : PipelineState μ ρ} {c : Collaborators μ ρ} {limits : Limits}

/-! ## Feeds -/

/-- A deposit that went through `#processOne`: the key it is retained under, and whether it is done
with. -/
structure Feed where
  key : String
  consumed : Bool
  deriving DecidableEq

/-- Whether a result takes the deposit out of the buffer. -/
def Result.done (result : Result) : Bool := result.consumed || result.alreadyProcessed

def feedOf : Event → Option Feed
  | .reported id result _ _ => some ⟨logKey id, Result.done result⟩
  | _ => none

/-- The feeds so far, the last one first. -/
def feeds (s : PipelineState μ ρ) : List Feed := s.journal.filterMap feedOf

/-- How often the deposit was fed in vain. -/
def failures (key : String) (news : List Feed) : Nat := news.count ⟨key, false⟩

/-- What a feed makes of the entry under `key`. -/
def Feed.settle (limits : Limits) (key : String) (feed : Feed) (entry : Option PendingEntry) :
    Option PendingEntry :=
  if feed.key = key then
    entry.bind fun e =>
      if feed.consumed = true ∨ limits.maxRetainAttempts ≤ e.attempts + 1 then none
      else some { e with attempts := e.attempts + 1 }
  else entry

/-- What many feeds make of it. -/
def settled (limits : Limits) (key : String) (entry : Option PendingEntry) :
    List Feed → Option PendingEntry
  | [] => entry
  | feed :: past => feed.settle limits key (settled limits key entry past)

theorem settled_append (key : String) (entry : Option PendingEntry) (past : List Feed) :
    ∀ news : List Feed, settled limits key entry (news ++ past) =
      settled limits key (settled limits key entry past) news
  | [] => rfl
  | feed :: news => by
    rw [cons_append, settled, settled, settled_append key entry past news]

/-- **What becomes of an entry.** It is gone if it was consumed once, or failed often enough;
otherwise its failures were counted. The induction is on the feeds, the last one first. -/
theorem settled_eq (key : String) {entry : PendingEntry}
    (h : entry.attempts < limits.maxRetainAttempts) : ∀ news : List Feed,
      settled limits key (some entry) news =
        if ⟨key, true⟩ ∈ news ∨ limits.maxRetainAttempts ≤ entry.attempts + failures key news
        then none else some { entry with attempts := entry.attempts + failures key news }
  | [] => by
    have hfew : ¬limits.maxRetainAttempts ≤ entry.attempts + failures key [] := Nat.not_le.2 h
    rw [if_neg (not_or.2 ⟨not_mem_nil, hfew⟩)]
    rfl
  | ⟨k, consumed⟩ :: past => by
    rw [settled, settled_eq key h past, Feed.settle]
    unfold failures
    by_cases hk : k = key
    · subst hk
      rw [if_pos rfl]
      cases consumed with
      | true =>
        rw [if_pos (Or.inl mem_cons_self)]
        split
        · rfl
        · simp
      | false =>
        have hmem : (⟨k, true⟩ : Feed) ∈ (⟨k, false⟩ : Feed) :: past ↔ ⟨k, true⟩ ∈ past := by simp
        simp only [count_cons_self, hmem]
        by_cases hgone : ⟨k, true⟩ ∈ past ∨
            limits.maxRetainAttempts ≤ entry.attempts + past.count ⟨k, false⟩
        · rw [if_pos hgone, if_pos (hgone.imp id fun hle => by omega)]
          rfl
        · rw [if_neg hgone, Option.bind_some]
          obtain ⟨hnot, hfew⟩ := not_or.1 hgone
          simp only [Bool.false_eq_true, false_or, hnot, Nat.add_assoc]
    · have hne : ∀ b : Bool, (⟨key, b⟩ : Feed) ≠ ⟨k, consumed⟩ := fun b heq =>
        hk (congrArg Feed.key heq).symm
      have hmem : (⟨key, true⟩ : Feed) ∈ (⟨k, consumed⟩ : Feed) :: past ↔ ⟨key, true⟩ ∈ past := by
        rw [mem_cons, or_iff_right (hne true)]
      simp only [if_neg hk, hmem, count_cons_of_ne (hne false).symm]

/-- From `s` to `s'` exactly these deposits were fed, and the buffer is what they make of it. -/
structure Fed (limits : Limits) (news : List Feed) (s s' : PipelineState μ ρ) : Prop where
  feeds : feeds s' = news ++ feeds s
  pending : ∀ key, s'.pending.get? key = settled limits key (s.pending.get? key) news

theorem Fed.refl (s : PipelineState μ ρ) : Fed limits [] s s := ⟨rfl, fun _ => rfl⟩

theorem Fed.trans {news news' : List Feed} {s'' : PipelineState μ ρ} (h : Fed limits news s s')
    (h' : Fed limits news' s' s'') : Fed limits (news' ++ news) s s'' := by
  refine ⟨?_, fun key => ?_⟩
  · rw [h'.feeds, h.feeds, append_assoc]
  · rw [h'.pending, h.pending, settled_append]

/-- Nothing was fed, and the buffer is as it was. -/
structure Idle (s₀ s : PipelineState μ ρ) : Prop where
  pending : s.pending = s₀.pending
  unfed : feeds s = feeds s₀

theorem Idle.refl (s : PipelineState μ ρ) : Idle s s := ⟨rfl, rfl⟩

/-! ## One deposit -/

section

variable (h : Idle s₀ s)
include h

theorem Idle.noted {e : Event} (he : feedOf e = none) : Idle s₀ (s.noted e) := by
  refine ⟨h.pending, ?_⟩
  have hfeeds : feeds (s.noted e) = feeds s := by
    unfold feeds PipelineState.noted
    rw [filterMap_cons_none he]
  rw [hfeeds, h.unfed]

/-- Whatever happens in the outbox, in the log or at the collaborators. -/
theorem Idle.wp_inOutbox {p : Proc (OutboxKv μ) α} :
    wp (inOutbox p) (fun _ => Idle s₀) (Idle s₀) (Idle s₀) s :=
  wp_zoom (wp_any (fun _ _ => ⟨h.pending, h.unfed⟩) (fun _ => ⟨h.pending, h.unfed⟩)
    fun _ => ⟨h.pending, h.unfed⟩)

theorem Idle.wp_inLog {p : Proc ProcessedKv α} :
    wp (inLog p) (fun _ => Idle s₀) (Idle s₀) (Idle s₀) s :=
  wp_zoom (wp_any (fun _ _ => ⟨h.pending, h.unfed⟩) (fun _ => ⟨h.pending, h.unfed⟩)
    fun _ => ⟨h.pending, h.unfed⟩)

theorem Idle.wp_inWorld {p : Proc ρ α} :
    wp (inWorld p) (fun _ => Idle s₀) (Idle s₀) (Idle s₀) s :=
  wp_zoom (wp_any (fun _ _ => ⟨h.pending, h.unfed⟩) (fun _ => ⟨h.pending, h.unfed⟩)
    fun _ => ⟨h.pending, h.unfed⟩)

end

/-- A call that is caught. -/
theorem Idle.wp_caught {p q : Proc (PipelineState μ ρ) α}
    (hp : wp p (fun _ => Idle s₀) (Idle s₀) (Idle s₀) s)
    (hq : ∀ s, Idle s₀ s → wp q (fun _ => Idle s₀) (fun _ => False) (Idle s₀) s) :
    wp (tryCatch p q) (fun _ => Idle s₀) (fun _ => False) (Idle s₀) s :=
  wp_tryCatch (wp_mono hp (fun _ _ hs => hs) hq fun _ hs => hs)

section

variable (h : Idle s₀ s)
include h

theorem Idle.wp_alreadyProcessed (id : DepositId) :
    wp (alreadyProcessed id) (fun _ => Idle s₀) (fun _ => False) (Idle s₀) s := by
  unfold alreadyProcessed
  split
  · exact wp_pure h
  · exact Idle.wp_caught h.wp_inLog fun s hs =>
      wp_bind (wp_note (wp_pure (hs.noted rfl)))

theorem Idle.wp_decryptDeposit (id : DepositId) (frame : Frame) :
    wp (decryptDeposit c id frame) (fun _ => Idle s₀) (fun _ => False) (Idle s₀) s := by
  unfold decryptDeposit
  exact wp_bind (wp_note (Idle.wp_caught (h.noted rfl).wp_inWorld fun _ hs => wp_pure hs))

theorem Idle.wp_stageMessage (id : DepositId) (userMessage : Option μ)
    (nowMs : Int) : wp (stageMessage id userMessage nowMs) (fun _ => Idle s₀)
      (fun _ => False) (Idle s₀) s := by
  cases userMessage with
  | none => exact wp_pure h
  | some m =>
    exact Idle.wp_caught (wp_bind (wp_imp h.wp_inOutbox (fun _ _ hs => wp_pure hs))) fun _ hs => wp_pure hs

theorem Idle.wp_applyMessage (id : DepositId) (userMessage : Option μ) :
    wp (applyMessage c id userMessage) (fun _ => Idle s₀) (fun _ => False) (Idle s₀) s := by
  cases userMessage with
  | none => exact wp_pure h
  | some m =>
    refine Idle.wp_caught (wp_bind (wp_imp h.wp_inWorld (fun _ _ hs => ?_))) fun _ hs => wp_pure hs
    exact wp_bind (wp_note (wp_pure (hs.noted rfl)))

theorem Idle.wp_applyPlaintext (frame : Frame) (applied : Bool) :
    wp (applyPlaintext c frame applied) (fun _ => Idle s₀) (fun _ => False) (Idle s₀) s :=
  Idle.wp_caught (wp_bind (wp_imp h.wp_inWorld (fun _ _ hs => wp_pure hs))) fun _ hs => wp_pure hs

theorem Idle.wp_markOutboxApplied (id : DepositId) :
    wp (markOutboxApplied id) (fun _ => Idle s₀) (fun _ => False) (Idle s₀) s :=
  wp_bind (wp_note (Idle.wp_caught (h.noted rfl).wp_inOutbox fun _ hs => wp_pure hs))

theorem Idle.wp_recordOutboxFailure (id : DepositId) (nowMs : Int) :
    wp (recordOutboxFailure id nowMs) (fun _ => Idle s₀) (fun _ => False) (Idle s₀) s :=
  Idle.wp_caught h.wp_inOutbox fun _ hs => wp_pure hs

theorem Idle.wp_reconcile (id : DepositId) (nowMs : Int)
    (hasUserMessage staged userApplied : Bool) :
    wp (reconcile id nowMs hasUserMessage staged userApplied) (fun _ => Idle s₀)
      (fun _ => False) (Idle s₀) s := by
  unfold reconcile
  split
  · split
    · exact h.wp_markOutboxApplied id
    · exact wp_bind (wp_imp (h.wp_recordOutboxFailure id nowMs)
        (fun _ _ hs => wp_pure hs))
  · exact wp_pure h

theorem Idle.wp_markProcessed (id : DepositId) (nowMs : Int)
    (hasUserMessage shouldMark : Bool) :
    wp (markProcessed id nowMs hasUserMessage shouldMark) (fun _ => Idle s₀)
      (fun _ => False) (Idle s₀) s := by
  unfold markProcessed
  split
  · exact wp_bind (wp_note (Idle.wp_caught (h.noted rfl).wp_inLog fun _ hs => wp_pure hs))
  · exact wp_pure h

end

/-- The deposit was fed once, with this result. -/
structure Processed (s₀ : PipelineState μ ρ) (key : String) (result : Result)
    (s : PipelineState μ ρ) : Prop where
  pending : s.pending = s₀.pending
  once : feeds s = ⟨key, Result.done result⟩ :: feeds s₀

theorem Idle.wp_report (h : Idle s₀ s) (id : DepositId) (result : Result) (hasUserMessage : Bool) :
    wp (report id result hasUserMessage)
      (fun r s' => Processed s₀ (logKey id) r s') (fun _ => False) (Idle s₀) s := by
  unfold report
  refine wp_bind (wp_note (wp_pure ⟨h.pending, ?_⟩))
  rw [← h.unfed]
  rfl

theorem Idle.wp_processStatus (h : Idle s₀ s) (id : DepositId) (frame : Frame) (nowMs : Int)
    (status : Option (Status μ)) : wp (processStatus c id frame nowMs status)
      (fun r s' => Processed s₀ (logKey id) r s') (fun _ => False) (Idle s₀) s := by
  unfold processStatus
  refine wp_bind (wp_imp (h.wp_stageMessage id _ nowMs) ?_)
  intro staged s₁ h₁
  refine wp_bind (wp_imp (h₁.wp_applyMessage id _) ?_)
  rintro ⟨applied, userApplied⟩ s₂ h₂
  refine wp_bind (wp_imp (h₂.wp_applyPlaintext frame applied) ?_)
  intro applied' s₃ h₃
  refine wp_bind (wp_imp (h₃.wp_reconcile id nowMs _ staged userApplied) ?_)
  intro _ s₄ h₄
  refine wp_bind (wp_imp (h₄.wp_markProcessed id nowMs _ _) ?_)
  exact fun _ s₅ h₅ => h₅.wp_report id _ _

/-- **One deposit.** `#processOne` never throws, leaves the buffer alone and is reported once. -/
theorem processOne_fed (frame : Frame) (nowMs : Int) (s : PipelineState μ ρ) :
    wp (processOne c frame nowMs)
      (fun r s' => Processed s (logKey (depositIdentity frame)) r s')
      (fun _ => False) (Idle s) s := by
  unfold processOne
  refine wp_bind (wp_imp ((Idle.refl s).wp_alreadyProcessed _) ?_)
  intro already s₁ h₁
  split
  · exact h₁.wp_report _ _ _
  · exact wp_bind (wp_imp (h₁.wp_decryptDeposit _ frame)
      (fun status s₂ h₂ => h₂.wp_processStatus _ frame nowMs status))

/-! ## The buffer -/

/-- The buffer as every operation keeps it: an entry stands under the key of its frame and has
attempts left, and there is room for all of them. -/
structure Buffer (limits : Limits) (pending : OrdMap String PendingEntry) : Prop where
  key : ∀ key entry, pending.get? key = some entry →
    logKey (depositIdentity entry.frame) = key
  attempts : ∀ key entry, pending.get? key = some entry → entry.attempts < limits.maxRetainAttempts
  size : pending.size ≤ limits.maxPending

theorem buffer_empty (limits : Limits) : Buffer limits empty := by
  refine ⟨?_, ?_, Nat.zero_le _⟩
  · intro key entry h
    cases h
  · intro key entry h
    cases h

theorem Buffer.delete {pending : OrdMap String PendingEntry} (h : Buffer limits pending)
    (key : String) : Buffer limits (pending.delete key) := by
  have hold : ∀ k entry, (pending.delete key).get? k = some entry →
      pending.get? k = some entry := by
    intro k entry he
    rw [get?_delete] at he
    split at he
    · cases he
    · exact he
  exact ⟨fun k entry he => h.key k entry (hold k entry he),
    fun k entry he => h.attempts k entry (hold k entry he),
    (size_delete_le _ _).trans h.size⟩

/-- Settling a retained entry is what its feed says. -/
theorem get?_settlePending (limits : Limits) (key : String) (r : Result)
    (pending : OrdMap String PendingEntry) (k : String) :
    (settlePending limits key (some r) pending).get? k =
      (Feed.mk key (Result.done r)).settle limits k (pending.get? k) := by
  unfold settlePending Feed.settle
  have hdone : (r.consumed || r.alreadyProcessed) = Result.done r := rfl
  simp only [hdone]
  by_cases hk : key = k
  · subst hk
    rw [if_pos rfl]
    by_cases hr : Result.done r = true
    · rw [if_pos hr, get?_delete_self]
      cases pending.get? key with
      | none => rfl
      | some entry => rw [Option.bind_some, if_pos (.inl hr)]
    · rw [if_neg hr]
      unfold settlePending.retained
      cases hentry : pending.get? key with
      | none => exact hentry
      | some entry =>
        rw [Option.bind_some]
        by_cases hlast : limits.maxRetainAttempts ≤ entry.attempts + 1
        · rw [if_pos (.inr hlast)]
          dsimp only
          rw [if_pos hlast, get?_delete_self]
        · rw [if_neg (not_or.2 ⟨hr, hlast⟩)]
          dsimp only
          rw [if_neg hlast, get?_set_self]
  · rw [if_neg hk]
    split
    · exact get?_delete_of_ne _ (Ne.symm hk)
    · unfold settlePending.retained
      split
      · split
        · exact get?_delete_of_ne _ (Ne.symm hk)
        · exact get?_set_of_ne _ _ (Ne.symm hk)
      · rfl

theorem Buffer.settle {pending : OrdMap String PendingEntry} (h : Buffer limits pending)
    (key : String) (r : Result) : Buffer limits (settlePending limits key (some r) pending) := by
  -- what stands there now stood there before, with one attempt less at most
  have hold : ∀ k entry, (settlePending limits key (some r) pending).get? k = some entry →
      ∃ entry', pending.get? k = some entry' ∧ entry.frame = entry'.frame ∧
        entry.attempts < limits.maxRetainAttempts := by
    intro k entry he
    rw [get?_settlePending, Feed.settle] at he
    split at he
    · obtain ⟨entry', hentry', hfed⟩ := Option.bind_eq_some_iff.1 he
      split at hfed
      · cases hfed
      · rename_i hmore
        cases hfed
        exact ⟨entry', hentry', rfl, Nat.not_le.1 (not_or.1 hmore).2⟩
    · exact ⟨entry, he, rfl, h.attempts k entry he⟩
  refine ⟨fun k entry he => ?_, fun k entry he => ?_, ?_⟩
  · obtain ⟨entry', hentry', hframe, -⟩ := hold k entry he
    rw [hframe]
    exact h.key k entry' hentry'
  · obtain ⟨-, -, -, hfew⟩ := hold k entry he
    exact hfew
  · exact (size_settlePending limits key (some r) pending).1.trans h.size

theorem size_set_le (pending : OrdMap String PendingEntry) (key : String) (entry : PendingEntry) :
    (pending.set key entry).size ≤ pending.size + 1 := by
  have hlength := length_setEntry key entry pending.entries
  unfold OrdMap.size OrdMap.set
  rw [hlength]
  split
  · omega
  · omega

/-- What the oldest entry makes room for. -/
theorem Buffer.evict {pending : OrdMap String PendingEntry} (h : Buffer limits pending)
    {oldestKey : String} (hhead : pending.keys.head? = some oldestKey) :
    (pending.delete oldestKey).size < limits.maxPending := by
  have hhas : pending.has oldestKey = true := by
    have hmem := mem_of_mem_head? hhead
    obtain ⟨⟨k, entry⟩, hentry, rfl⟩ := mem_map.1 hmem
    exact has_of_get? (mem_entries_iff.1 hentry)
  exact (size_delete_lt hhas).trans_le h.size

/-- A full buffer has an oldest entry. -/
theorem size_lt_of_headless {pending : OrdMap String PendingEntry}
    (hhead : pending.keys.head? = none) : pending.size < limits.maxPending := by
  have hkeys := head?_eq_none_iff.1 hhead
  unfold OrdMap.keys at hkeys
  unfold size
  rw [map_eq_nil_iff.1 hkeys]
  exact limits.maxPending_pos

/-- A new entry, where there is room for it. -/
theorem Buffer.retain {room : OrdMap String PendingEntry} (h : Buffer limits room)
    (hsize : room.size < limits.maxPending) (frame : Frame) :
    Buffer limits (room.set (logKey (depositIdentity frame)) ⟨frame, 0⟩) := by
  refine ⟨?_, ?_, (size_set_le _ _ _).trans hsize⟩
  · intro k entry he
    rw [get?_set] at he
    split at he
    · rename_i hk
      cases he
      exact hk.symm
    · exact h.key k entry he
  · intro k entry he
    rw [get?_set] at he
    split at he
    · cases he
      exact limits.maxRetainAttempts_pos
    · exact h.attempts k entry he

/-- What happens to the buffer when a deposit was processed, for the first time or again. -/
inductive Updated (limits : Limits) (frame : Frame) (result : Result)
    (pending : OrdMap String PendingEntry) : OrdMap String PendingEntry → Prop
  | same : Updated limits frame result pending pending
  | dropped (hdone : Result.done result = true) : Updated limits frame result pending
      (pending.delete (logKey (depositIdentity frame)))
  | retained (room : OrdMap String PendingEntry) (hdone : Result.done result = false)
      (hnew : pending.has (logKey (depositIdentity frame)) = false)
      (hroom : room = pending ∨ ∃ oldestKey, limits.maxPending ≤ pending.size ∧
        pending.keys.head? = some oldestKey ∧ room = pending.delete oldestKey) :
      Updated limits frame result pending
        (room.set (logKey (depositIdentity frame)) ⟨frame, 0⟩)

theorem Buffer.update {pending : OrdMap String PendingEntry} (h : Buffer limits pending)
    (frame : Frame) (result : Result) :
    Buffer limits (updatePending limits frame result pending) ∧
      Updated limits frame result pending (updatePending limits frame result pending) := by
  unfold updatePending
  dsimp only
  split
  · exact ⟨h, .same⟩
  · split
    · rename_i hdone
      exact ⟨h.delete _, .dropped hdone⟩
    · rename_i hdone
      split
      · exact ⟨h, .same⟩
      · split
        · exact ⟨h, .same⟩
        · rename_i hnew
          have hretained : ∀ room, (room = pending ∨ ∃ oldestKey,
              limits.maxPending ≤ pending.size ∧ pending.keys.head? = some oldestKey ∧
              room = pending.delete oldestKey) → Updated limits frame result pending
                (room.set (logKey (depositIdentity frame)) ⟨frame, 0⟩) :=
            fun room hroom => .retained room (Bool.eq_false_iff.2 hdone) (Bool.eq_false_iff.2 hnew)
              hroom
          split
          · rename_i hfull
            split
            · rename_i oldestKey hhead
              exact ⟨(h.delete _).retain (h.evict hhead) frame,
                hretained _ (.inr ⟨oldestKey, hfull, hhead, rfl⟩)⟩
            · rename_i hhead
              exact ⟨h.retain (size_lt_of_headless hhead) frame, hretained _ (.inl rfl)⟩
          · rename_i hroom
            exact ⟨h.retain (Nat.not_le.1 hroom) frame, hretained _ (.inl rfl)⟩

/-! ## The re-drain -/

/-- Feeding one retained deposit. -/
theorem redrainEntry_fed {key : String} {entry : PendingEntry} (hbuffer : Buffer c.limits s.pending)
    (hkey : logKey (depositIdentity entry.frame) = key) (nowMs : Int)
    (progress : Bool) :
    wp (redrainEntry c nowMs progress (key, entry))
      (fun progress' s' => ∃ r, s'.pending = settlePending c.limits key (some r) s.pending ∧
        Fed c.limits [⟨key, Result.done r⟩] s s' ∧ Buffer c.limits s'.pending ∧
        progress' = (progress || Result.done r))
      (fun _ => False) (fun s' => Buffer c.limits s'.pending) s := by
  unfold redrainEntry
  refine wp_bind (wp_tryCatch (wp_bind (wp_mono
    (processOne_fed entry.frame nowMs s) ?_ (fun _ hf => hf.elim) ?_)))
  · intro r s₁ h₁
    refine wp_pure (wp_bind (wp_modify (wp_pure ⟨r, ?_, ⟨?_, ?_⟩, ?_, rfl⟩)))
    · rw [← h₁.pending]
    · have hfeeds := h₁.once
      rw [hkey] at hfeeds
      exact hfeeds
    · intro k
      have hsettled := get?_settlePending c.limits key r s.pending k
      rw [← h₁.pending] at hsettled ⊢
      exact hsettled
    · have hsettled := hbuffer.settle key r
      rw [← h₁.pending] at hsettled
      exact hsettled
  · intro s₁ h₁
    rw [h₁.pending]
    exact hbuffer

/-- What a re-drain has done so far: the buffer is what the feeds make of it, and it is as a buffer
should be. -/
structure Drained (limits : Limits) (news : List Feed) (s s' : PipelineState μ ρ) : Prop where
  fed : Fed limits news s s'
  buffer : Buffer limits s'.pending

/-- Every deposit retained in `s` was fed. -/
def AllFed (news : List Feed) (s : PipelineState μ ρ) : Prop :=
  ∀ key entry, s.pending.get? key = some entry → ∃ consumed, ⟨key, consumed⟩ ∈ news

/-- **One pass** feeds every entry once. If it made progress the buffer is smaller than it was. -/
theorem redrainPass_fed (nowMs : Int) (h : Buffer c.limits s.pending) :
    wp (redrainPass c nowMs)
      (fun progress s' => ∃ news, Drained c.limits news s s' ∧ AllFed news s ∧
        (progress = true → s'.pending.size < s.pending.size))
      (fun _ => False) (fun s' => Buffer c.limits s'.pending) s := by
  unfold redrainPass
  refine wp_bind (wp_get (wp_imp (wp_foldlM
    (fun progress rest s' => ∃ news, Drained c.limits news s s' ∧
      (∀ e ∈ s.pending.entries, e ∈ rest ∨ ∃ consumed, ⟨e.1, consumed⟩ ∈ news) ∧
      s'.pending.size ≤ s.pending.size ∧ (progress = true → s'.pending.size < s.pending.size) ∧
      (rest.map Prod.fst).Nodup ∧ ∀ e ∈ rest, s'.pending.has e.1 = true ∧
        logKey (depositIdentity e.2.frame) = e.1)
    ?_ s.pending.entries false s ?_) ?_))
  · -- one entry of the snapshot: the entries after it are still in the buffer
    rintro progress ⟨key, entry⟩ rest s₁ ⟨news, h₁, hall, hle, hlt, hnodup, hrest⟩
    rw [map_cons, nodup_cons] at hnodup
    obtain ⟨hhas, hkey⟩ := hrest (key, entry) mem_cons_self
    refine wp_imp (redrainEntry_fed h₁.buffer hkey nowMs progress) ?_
    rintro progress' s₂ ⟨r, hpending, hfed, hbuffer, rfl⟩
    obtain ⟨hsize, hsmaller⟩ := size_settlePending c.limits key (some r) s₁.pending
    rw [← hpending] at hsize hsmaller
    refine ⟨_, ⟨h₁.fed.trans hfed, hbuffer⟩, ?_, hsize.trans hle, ?_, hnodup.2, ?_⟩
    · intro e he
      rcases hall e he with hmem | ⟨consumed, hfed'⟩
      · rcases mem_cons.1 hmem with rfl | hlater
        · exact .inr ⟨_, mem_append_left _ mem_cons_self⟩
        · exact .inl hlater
      · exact .inr ⟨consumed, mem_append_right _ hfed'⟩
    · intro hprogress
      rcases (Bool.or_eq_true _ _).mp hprogress with hold | hnew
      · exact lt_of_le_of_lt hsize (hlt hold)
      · exact lt_of_lt_of_le (hsmaller hnew hhas) hle
    · intro e he
      have hne : e.1 ≠ key := fun heq => hnodup.1 (mem_map.2 ⟨e, he, heq⟩)
      rw [hpending, has_settlePending _ hne]
      exact hrest e (mem_cons_of_mem _ he)
  · refine ⟨[], ⟨Fed.refl s, h⟩, fun e he => .inl he, le_refl _,
      fun hf => absurd hf Bool.false_ne_true, s.pending.nodup, ?_⟩
    intro e he
    have hget := mem_entries_iff.1 he
    exact ⟨has_of_get? hget, h.key e.1 e.2 hget⟩
  · rintro progress s' ⟨news, h', hall, -, hlt, -, -⟩
    refine ⟨news, h', fun key entry hentry => ?_, hlt⟩
    exact (hall (key, entry) (mem_entries_iff.2 hentry)).resolve_left not_mem_nil

/-- **The passes end.** With more fuel than there are entries, the last one made no progress. The
induction is on the fuel, and a pass that made progress left fewer entries. -/
theorem redrainLoop_fed (nowMs : Int) : ∀ (fuel : Nat) (s : PipelineState μ ρ),
    Buffer c.limits s.pending → s.pending.size < fuel →
      wp (redrainLoop c nowMs fuel)
        (fun finished s' => finished = true ∧ ∃ news, Drained c.limits news s s' ∧ AllFed news s)
        (fun _ => False) (fun s' => Buffer c.limits s'.pending) s
  | 0, _, _, hfuel => absurd hfuel (Nat.not_lt_zero _)
  | fuel + 1, s, h, hfuel => by
    rw [redrainLoop]
    refine wp_bind (wp_imp (redrainPass_fed nowMs h) ?_)
    rintro progress s₁ ⟨news, h₁, hall, hlt⟩
    by_cases hprogress : progress = true
    · rw [if_pos hprogress]
      have hsmaller := hlt hprogress
      refine wp_imp (redrainLoop_fed nowMs fuel s₁ h₁.buffer (by omega)) ?_
      rintro finished s₂ ⟨hfinished, news', h₂, -⟩
      refine ⟨hfinished, _, ⟨h₁.fed.trans h₂.fed, h₂.buffer⟩, fun key entry hentry => ?_⟩
      obtain ⟨consumed, hmem⟩ := hall key entry hentry
      exact ⟨consumed, mem_append_right _ hmem⟩
    · rw [if_neg hprogress]
      exact wp_pure ⟨rfl, news, h₁, hall⟩

/-- **A re-drain** ends, and feeds every entry. -/
theorem redrainPending_fed (nowMs : Int) (h : Buffer c.limits s.pending) :
    wp (redrainPending c nowMs)
      (fun finished s' => finished = true ∧ ∃ news, Drained c.limits news s s' ∧ AllFed news s)
      (fun _ => False) (fun s' => Buffer c.limits s'.pending) s := by
  unfold redrainPending
  exact wp_bind (wp_get (redrainLoop_fed nowMs _ s h (Nat.lt_succ_self _)))

/-! ## The operations -/

/-- Why an entry is not retained any more: it was consumed, its attempts are used up, or the buffer
was full and it was the oldest when the deposit of `op` had to be retained. -/
inductive Left (limits : Limits) (s : PipelineState μ ρ) (op : Op) (news : List Feed) (key : String)
    (entry : PendingEntry) : Prop
  | consumed (h : ⟨key, true⟩ ∈ news)
  | exhausted (h : limits.maxRetainAttempts ≤ entry.attempts + failures key news)
  | evicted (frame : Frame) (nowMs : Int) (fates : List Fate) (hop : op = .submit frame nowMs fates)
      (hnew : s.pending.has (logKey (depositIdentity frame)) = false)
      (hfed : news = [⟨logKey (depositIdentity frame), false⟩])
      (hfull : limits.maxPending ≤ s.pending.size) (holdest : s.pending.keys.head? = some key)

/-- What an operation did to the entries there were: one that was fed in vain and has attempts left
is retained with them counted, and one that is gone left for a reason. -/
structure Attended (limits : Limits) (s : PipelineState μ ρ) (op : Op) (news : List Feed)
    (s' : PipelineState μ ρ) : Prop where
  feeds : feeds s' = news ++ feeds s
  left : ∀ key entry, s.pending.get? key = some entry → s'.pending.get? key = none →
    Left limits s op news key entry

theorem Drained.get? {news : List Feed} (h : Drained limits news s s')
    (hbuffer : Buffer limits s.pending) {key : String} {entry : PendingEntry}
    (hentry : s.pending.get? key = some entry) : s'.pending.get? key =
      if ⟨key, true⟩ ∈ news ∨ limits.maxRetainAttempts ≤ entry.attempts + failures key news
      then none else some { entry with attempts := entry.attempts + failures key news } := by
  rw [h.fed.pending key, hentry, settled_eq key (hbuffer.attempts key entry hentry)]

theorem Drained.attended {news : List Feed} (h : Drained limits news s s')
    (hbuffer : Buffer limits s.pending) (op : Op) : Attended limits s op news s' := by
  refine ⟨h.fed.feeds, fun key entry hentry hgone => ?_⟩
  rw [h.get? hbuffer hentry] at hgone
  split at hgone
  · rename_i hwhy
    exact hwhy.elim .consumed .exhausted
  · cases hgone

/-- Where nothing was fed, nothing left. -/
theorem Idle.attended (h : Idle s s') (op : Op) : Attended limits s op [] s' := by
  refine ⟨h.unfed, fun key entry hentry hgone => ?_⟩
  rw [h.pending, hentry] at hgone
  cases hgone

/-- What the update of the buffer does to an entry it held. -/
theorem Updated.entry {frame : Frame} {result : Result} {pending pending' : OrdMap String PendingEntry}
    (h : Updated limits frame result pending pending') {key : String} {entry : PendingEntry}
    (hentry : pending.get? key = some entry) : pending'.get? key = some entry ∨
      (Result.done result = true ∧ key = logKey (depositIdentity frame)) ∨
      (Result.done result = false ∧
        pending.has (logKey (depositIdentity frame)) = false ∧
        limits.maxPending ≤ pending.size ∧ pending.keys.head? = some key) := by
  cases h with
  | same => exact .inl hentry
  | dropped hdone =>
    by_cases hkey : key = logKey (depositIdentity frame)
    · exact .inr (.inl ⟨hdone, hkey⟩)
    · rw [get?_delete_of_ne _ hkey]
      exact .inl hentry
  | retained room hdone hnew hroom =>
    have hkey : key ≠ logKey (depositIdentity frame) := by
      rintro rfl
      rw [has_of_get? hentry] at hnew
      cases hnew
    rw [get?_set_of_ne _ _ hkey]
    rcases hroom with rfl | ⟨oldestKey, hfull, hhead, rfl⟩
    · exact .inl hentry
    · by_cases holdest : key = oldestKey
      · rw [holdest]
        exact .inr (.inr ⟨hdone, hnew, hfull, hhead⟩)
      · rw [get?_delete_of_ne _ holdest]
        exact .inl hentry

/-- What a submission of a deposit that is freshly consumed did to the entries there were: each was
fed, and it is what its feeds make of it. -/
structure Retried (limits : Limits) (s : PipelineState μ ρ) (news : List Feed)
    (s' : PipelineState μ ρ) : Prop where
  allFed : AllFed news s
  entry : ∀ key entry, s.pending.get? key = some entry → ⟨key, true⟩ ∉ news →
    s'.pending.get? key =
      if limits.maxRetainAttempts ≤ entry.attempts + failures key news then none
      else some { entry with attempts := entry.attempts + failures key news }

/-- A deposit was processed, and the buffer updated. -/
structure Taken (limits : Limits) (frame : Frame) (result : Result) (s s' : PipelineState μ ρ) :
    Prop where
  feeds : feeds s' =
    ⟨logKey (depositIdentity frame), Result.done result⟩ :: feeds s
  updated : Updated limits frame result s.pending s'.pending
  buffer : Buffer limits s'.pending

variable {frame : Frame} {result : Result} {nowMs : Int} {fates : List Fate}

theorem Taken.attended (h : Taken limits frame result s s') :
    Attended limits s (.submit frame nowMs fates)
      [⟨logKey (depositIdentity frame), Result.done result⟩] s' := by
  refine ⟨h.feeds, fun key entry hentry hgone => ?_⟩
  rcases h.updated.entry hentry with hsame | ⟨hdone, rfl⟩ | ⟨hdone, hnew, hfull, holdest⟩
  · rw [hsame] at hgone
    cases hgone
  · rw [hdone]
    exact .consumed mem_cons_self
  · rw [hdone]
    exact .evicted frame nowMs fates rfl hnew rfl hfull holdest

/-- What was consumed is gone, and nothing else. -/
theorem Taken.entry (h : Taken limits frame result s s') (hdone : Result.done result = true)
    {key : String} {entry : PendingEntry} (hentry : s.pending.get? key = some entry) :
    s'.pending.get? key = some entry ∨ key = logKey (depositIdentity frame) := by
  rcases h.updated.entry hentry with hsame | ⟨-, hkey⟩ | ⟨hnot, -⟩
  · exact .inl hsame
  · exact .inr hkey
  · rw [hdone] at hnot
    cases hnot

theorem failures_append_consumed (key k : String) (news : List Feed) :
    failures key (news ++ [⟨k, true⟩]) = failures key news := by
  unfold failures
  have hne : (⟨k, true⟩ : Feed) ≠ ⟨key, false⟩ := fun heq =>
    Bool.noConfusion (congrArg Feed.consumed heq)
  rw [count_append, count_cons_of_ne hne]
  rfl

/-- A consumed deposit, and the re-drain after it. -/
theorem Taken.drained {s'' : PipelineState μ ρ} {news : List Feed}
    (h : Taken limits frame result s s') (hdone : Result.done result = true)
    (h' : Drained limits news s' s'') : Attended limits s (.submit frame nowMs fates)
      (news ++ [⟨logKey (depositIdentity frame), true⟩]) s'' := by
  refine ⟨?_, fun key entry hentry hgone => ?_⟩
  · rw [h'.fed.feeds, h.feeds, hdone, append_assoc]
    rfl
  · rcases h.entry hdone hentry with hsame | rfl
    · rw [h'.get? h.buffer hsame] at hgone
      split at hgone
      · rename_i hwhy
        rcases hwhy with hconsumed | hexhausted
        · exact .consumed (mem_append_left _ hconsumed)
        · exact .exhausted (by rwa [failures_append_consumed])
      · cases hgone
    · exact .consumed (mem_append_right _ mem_cons_self)

theorem Taken.retried {s'' : PipelineState μ ρ} {news : List Feed}
    (h : Taken limits frame result s s') (hdone : Result.done result = true)
    (h' : Drained limits news s' s'') (hall : AllFed news s') : Retried limits s
      (news ++ [⟨logKey (depositIdentity frame), true⟩]) s'' := by
  refine ⟨fun key entry hentry => ?_, fun key entry hentry hnot => ?_⟩
  · rcases h.entry hdone hentry with hsame | rfl
    · obtain ⟨consumed, hfed⟩ := hall key entry hsame
      exact ⟨consumed, mem_append_left _ hfed⟩
    · exact ⟨true, mem_append_right _ mem_cons_self⟩
  · rcases h.entry hdone hentry with hsame | rfl
    · rw [h'.get? h.buffer hsame, failures_append_consumed]
      have hunconsumed : ⟨key, true⟩ ∉ news := fun hmem => hnot (mem_append_left _ hmem)
      simp only [hunconsumed, false_or]
    · exact absurd (mem_append_right _ mem_cons_self) hnot

/-- **A submission** keeps the buffer as it should be, nothing leaves it without a reason, and if
the deposit is freshly consumed all that was retained is fed again. -/
theorem submit_fed (frame : Frame) (nowMs : Int) (fates : List Fate)
    (h : Buffer c.limits s.pending) : wp (submit c frame nowMs)
      (fun result s' => Buffer c.limits s'.pending ∧ ∃ news,
        Attended c.limits s (.submit frame nowMs fates) news s' ∧
        (result.consumed = true → result.alreadyProcessed = false → Retried c.limits s news s'))
      (fun _ => False) (fun s' => Buffer c.limits s'.pending) s := by
  unfold submit
  refine wp_bind (wp_mono (processOne_fed frame nowMs s) ?_ (fun _ hf => hf.elim) ?_)
  · intro result s₁ h₁
    obtain ⟨hbuffer, hupdated⟩ := h.update frame result
    rw [← h₁.pending] at hbuffer
    have htaken : Taken c.limits frame result s
        { s₁ with pending := updatePending c.limits frame result s₁.pending } := by
      refine ⟨h₁.once, ?_, hbuffer⟩
      rw [← h₁.pending] at hupdated ⊢
      exact hupdated
    refine wp_bind (wp_modify (wp_bind (wp_get ?_)))
    generalize { s₁ with pending := updatePending c.limits frame result s₁.pending } = s₂ at htaken ⊢
    split
    · rename_i hheals
      simp only [Bool.and_eq_true] at hheals
      have hdone : Result.done result = true := by
        unfold Result.done
        rw [hheals.1.1, Bool.true_or]
      refine wp_bind (wp_imp (redrainPending_fed nowMs htaken.buffer) ?_)
      rintro finished s₃ ⟨-, news, h₃, hall⟩
      exact wp_pure ⟨h₃.buffer, _, htaken.drained hdone h₃,
        fun _ _ => htaken.retried hdone h₃ hall⟩
    · rename_i hheals
      refine wp_pure ⟨htaken.buffer, _, htaken.attended, fun hconsumed hfresh => ?_⟩
      -- nothing is retained any more, so what was is the deposit itself
      have hdone : Result.done result = true := by
        unfold Result.done
        rw [hconsumed, Bool.true_or]
      have hnone : ∀ key entry, s.pending.get? key = some entry →
          key = logKey (depositIdentity frame) := by
        intro key entry hentry
        rcases htaken.entry hdone hentry with hsame | hkey
        · have hmem := mem_entries_iff.2 hsame
          have hpos : 0 < s₂.pending.size := length_pos_of_mem hmem
          rw [hconsumed, hfresh] at hheals
          simp [hpos] at hheals
        · exact hkey
      rw [hdone]
      refine ⟨fun key entry hentry => ⟨true, ?_⟩, fun key entry hentry hnot => absurd ?_ hnot⟩
      · rw [hnone key entry hentry]
        exact mem_cons_self
      · rw [hnone key entry hentry]
        exact mem_cons_self
  · intro s₁ h₁
    rw [h₁.pending]
    exact h

theorem sweep_fed (nowMs : Int) (fates : List Fate) (h : Buffer c.limits s.pending) :
    wp (sweep c nowMs)
      (fun _ s' => Buffer c.limits s'.pending ∧ ∃ news,
        Attended c.limits s (.sweep nowMs fates) news s')
      (fun _ => False) (fun s' => Buffer c.limits s'.pending) s := by
  unfold sweep
  refine wp_bind (wp_get ?_)
  split
  · exact wp_pure ⟨h, [], (Idle.refl s).attended _⟩
  · refine wp_bind (wp_imp (redrainPending_fed nowMs h) ?_)
    rintro finished s' ⟨-, news, h', -⟩
    exact wp_pure ⟨h'.buffer, news, h'.attended h _⟩

/-! ### What does not touch the buffer -/

section

variable (h : Idle s₀ s)
include h

theorem Idle.wp_retryFailed (mailboxId : String) (bounds : RetryBounds)
    (dedupId : String) (acc : RetryReport) : wp (retryFailed mailboxId bounds dedupId acc)
      (fun _ => Idle s₀) (fun _ => False) (Idle s₀) s := by
  unfold retryFailed
  refine wp_bind (wp_imp (h.wp_recordOutboxFailure _ _) ?_)
  intro count s₁ h₁
  dsimp only
  split
  · exact wp_bind (wp_note (wp_bind (wp_imp ((h₁.noted rfl).wp_markOutboxApplied _)
      (fun _ _ hs => wp_pure hs))))
  · exact wp_pure h₁

theorem Idle.wp_retryEntry (mailboxId : String) (bounds : RetryBounds)
    (acc : RetryReport) (entry : OutboxEntry μ) :
    wp (retryEntry c mailboxId bounds acc entry) (fun _ => Idle s₀) (fun _ => False)
      (Idle s₀) s := by
  unfold retryEntry
  split
  · exact wp_pure h
  · refine Idle.wp_caught (wp_bind (wp_imp h.wp_inWorld (fun _ s₁ h₁ => ?_))) fun _ hs => hs.wp_retryFailed _ _ _ _
    refine wp_bind (wp_note (wp_bind (wp_mono
      ((h₁.noted rfl).wp_markOutboxApplied _) (fun _ _ hs => ?_) (fun _ hf => hf.elim)
      fun _ hs => hs)))
    exact wp_pure hs

theorem Idle.wp_retryApplyOutbox (mailboxId : String) (bounds : RetryBounds) :
    wp (retryApplyOutbox c mailboxId bounds) (fun _ => Idle s₀) (fun _ => False) (Idle s₀)
      s := by
  unfold retryApplyOutbox
  refine wp_bind (wp_imp (Idle.wp_caught (wp_bind (wp_mono h.wp_inOutbox
    (fun _ _ hs => wp_pure hs) (fun _ hs => hs) fun _ hs => hs)) fun _ hs => wp_pure hs)
    ?_)
  intro pending s₁ h₁
  cases pending with
  | none => exact wp_pure h₁
  | some entries =>
    exact wp_foldlM (fun _ _ => Idle s₀)
      (fun acc entry _ s hs => hs.wp_retryEntry mailboxId bounds acc entry) entries _ s₁ h₁

end

/-! ## Runs -/

/-- The state where an operation ends, or where the process dies in it. -/
def ended (c : Collaborators μ ρ) (s : PipelineState μ ρ) : Op → PipelineState μ ρ
  | .submit frame nowMs fates => (submit c frame nowMs fates s).state
  | .sweep nowMs fates => (sweep c nowMs fates s).state
  | .retryApplyOutbox mailboxId bounds fates => (retryApplyOutbox c mailboxId bounds fates s).state
  | .forget mailboxId dedupId fates => (inLog (forget mailboxId dedupId) fates s).state
  | .restart => s

/-- The process survives the operation. -/
def Survives (c : Collaborators μ ρ) (s : PipelineState μ ρ) : Op → Prop
  | .submit frame nowMs fates => (submit c frame nowMs fates s).outcome ≠ .died
  | .sweep nowMs fates => (sweep c nowMs fates s).outcome ≠ .died
  | .retryApplyOutbox mailboxId bounds fates =>
    (retryApplyOutbox c mailboxId bounds fates s).outcome ≠ .died
  | .forget mailboxId dedupId fates =>
    (inLog (forget mailboxId dedupId) fates s).outcome ≠ .died
  | .restart => False

/-- **What the retry buffer promises**, of an operation in a state. A re-drain that were to start now
ends, whatever becomes of its deposits. The buffer is never larger than it may be, also where the
process dies. An entry leaves the buffer of a process for one of three reasons. And a submission
whose deposit is freshly consumed feeds every entry again, and of those fed in vain only one that
has no attempt left is dropped. -/
structure Fair (c : Collaborators μ ρ) (s : PipelineState μ ρ) (op : Op) : Prop where
  ends : ∀ nowMs fates, (redrainPending c nowMs fates s).outcome = .returned true ∨
    (redrainPending c nowMs fates s).outcome = .died
  bounded : (ended c s op).pending.size ≤ c.limits.maxPending
  left : Survives c s op → ∃ news, Attended c.limits s op news (ended c s op)
  retried : ∀ frame nowMs fates result, op = .submit frame nowMs fates →
    (submit c frame nowMs fates s).outcome = .returned result → result.consumed = true →
    result.alreadyProcessed = false →
    ∃ news, feeds (ended c s op) = news ++ feeds s ∧ Retried c.limits s news (ended c s op)

theorem redrainPending_ends (h : Buffer c.limits s.pending) (nowMs : Int) (fates : List Fate) :
    (redrainPending c nowMs fates s).outcome = .returned true ∨
      (redrainPending c nowMs fates s).outcome = .died := by
  have hends := redrainPending_fed nowMs h
  cases houtcome : (redrainPending c nowMs fates s).outcome with
  | returned finished =>
    rw [(wp_returned hends houtcome).1]
    exact .inl rfl
  | threw => exact (wp_threw hends houtcome).elim
  | died => exact .inr rfl

/-- What an operation that never throws leaves, wherever it is cut off. -/
theorem ended_of_wp {p : Proc (PipelineState μ ρ) α} {R : α → PipelineState μ ρ → Prop}
    (h : wp p (fun a s' => Buffer limits s'.pending ∧ R a s') (fun _ => False)
      (fun s' => Buffer limits s'.pending) s) (fates : List Fate) :
    Buffer limits (p fates s).state.pending ∧
      ((p fates s).outcome ≠ .died → ∃ a, R a (p fates s).state) ∧
      ∀ a, (p fates s).outcome = .returned a → R a (p fates s).state := by
  refine ⟨?_, fun halive => ?_, fun a ha => (wp_returned h ha).2⟩
  · refine wp_ending (I := fun s' => Buffer limits s'.pending) (wp_mono h ?_ ?_ ?_) fates
    · exact fun a s' hs => hs.1
    · exact fun s' hf => hf.elim
    · exact fun s' hs => hs
  · cases houtcome : (p fates s).outcome with
    | returned a => exact ⟨a, (wp_returned h houtcome).2⟩
    | threw => exact (wp_threw h houtcome).elim
    | died => exact absurd houtcome halive

section

variable (h : Buffer c.limits s.pending)
include h

/-- What does not touch the buffer at all. -/
theorem Idle.fair {op : Op} (hidle : Idle s (ended c s op))
    (hop : ∀ frame nowMs fates, op ≠ .submit frame nowMs fates) :
    Buffer c.limits (ended c s op).pending ∧ Fair c s op := by
  have hbuffer : Buffer c.limits (ended c s op).pending := by
    rw [hidle.pending]
    exact h
  exact ⟨hbuffer, redrainPending_ends h, hbuffer.size, fun _ => ⟨[], hidle.attended op⟩,
    fun frame nowMs fates _ heq => absurd heq (hop frame nowMs fates)⟩

/-- **One operation** keeps the buffer as it should be, and attends to it as promised. -/
theorem Buffer.fair (op : Op) :
    Buffer c.limits (ended c s op).pending ∧ Fair c s op := by
  cases op with
  | submit frame nowMs fates =>
    obtain ⟨hbuffer, halive, hreturned⟩ := ended_of_wp (submit_fed frame nowMs fates h) fates
    refine ⟨hbuffer, redrainPending_ends h, hbuffer.size, fun hsurvives => ?_, ?_⟩
    · obtain ⟨result, news, hattended, -⟩ := halive hsurvives
      exact ⟨news, hattended⟩
    · intro frame' nowMs' fates' result heq houtcome hconsumed hfresh
      cases heq
      obtain ⟨news, hattended, hretried⟩ := hreturned result houtcome
      exact ⟨news, hattended.feeds, hretried hconsumed hfresh⟩
  | sweep nowMs fates =>
    obtain ⟨hbuffer, halive, -⟩ := ended_of_wp (sweep_fed nowMs fates h) fates
    refine ⟨hbuffer, redrainPending_ends h, hbuffer.size, fun hsurvives => ?_, ?_⟩
    · obtain ⟨-, hattended⟩ := halive hsurvives
      exact hattended
    · intro frame' nowMs' fates' result heq
      cases heq
  | retryApplyOutbox mailboxId bounds fates =>
    refine Idle.fair h (wp_ending (wp_mono
      ((Idle.refl s).wp_retryApplyOutbox mailboxId bounds) (fun _ _ hs => hs) (fun _ hf => hf.elim)
      fun _ hs => hs) fates) ?_
    intro frame nowMs fates' heq
    cases heq
  | forget mailboxId dedupId fates =>
    refine Idle.fair h (wp_ending (Idle.refl s).wp_inLog fates) ?_
    intro frame nowMs fates' heq
    cases heq
  | restart =>
    refine Idle.fair h (Idle.refl s) ?_
    intro frame nowMs fates heq
    cases heq

/-- A new process starts with an empty buffer. -/
theorem Buffer.kept (wake : ρ → ρ) (op : Op) :
    Buffer c.limits (step c wake s op).pending := by
  have hended := (h.fair op).1
  have hfinish : ∀ {β : Type} (e : Ending (PipelineState μ ρ) β), Buffer c.limits e.state.pending →
      Buffer c.limits (finish wake e).pending := by
    intro β e he
    unfold finish
    split
    · exact buffer_empty _
    · exact he
  cases op with
  | submit frame nowMs fates =>
    rw [ended] at hended
    rw [step]
    exact hfinish _ hended
  | sweep nowMs fates =>
    rw [ended] at hended
    rw [step]
    exact hfinish _ hended
  | retryApplyOutbox mailboxId bounds fates =>
    rw [ended] at hended
    rw [step]
    exact hfinish _ hended
  | forget mailboxId dedupId fates =>
    rw [ended] at hended
    rw [step]
    exact hfinish _ hended
  | restart => exact buffer_empty _

end

/-- **The buffer is bounded and fair** in every operation of every run, whatever it held when the run
began, whatever the bounds are, and whatever becomes of each deposit. -/
theorem run_fair (c : Collaborators μ ρ) (wake : ρ → ρ) (s : PipelineState μ ρ)
    (h : Buffer c.limits s.pending) (ops : List Op) :
    Runs.Meets (step c wake) (Fair c) s ops := by
  refine Runs.meets_of_invariant (step c wake) (I := fun s => Buffer c.limits s.pending) ?_ ?_ ops s
    h (Runs.meets_true (step c wake) ops s)
  · intro s op hs _
    exact hs.kept wake op
  · intro s op hs _
    exact (hs.fair op).2

/-! ## One that fails again -/

section Poison

/-- A peer link that consumes every deposit but one. -/
def healing : Collaborators String Unit where
  decryptDeposit frame :=
    pure (if frame.ciphertextB64 = some "poison" then none else some ⟨true, false, none⟩)
  applyUserMessage _ := pure ()
  processDeposit _ := pure ()

def poison : Frame := { mailboxId := some "m", seq := some 1, ciphertextB64 := some "poison" }

def handshake : Frame := { mailboxId := some "m", seq := some 2, ciphertextB64 := some "hello" }

/-- A deposit that is freshly consumed drops no retained deposit that is fed in vain. -/
def Spares (c : Collaborators μ ρ) (s : PipelineState μ ρ) (op : Op) : Prop :=
  ∀ frame nowMs fates result, op = .submit frame nowMs fates →
    (submit c frame nowMs fates s).outcome = .returned result → result.consumed = true →
    result.alreadyProcessed = false → ∀ news, feeds (ended c s op) = news ++ feeds s →
    ∀ key entry, s.pending.get? key = some entry → ⟨key, true⟩ ∉ news →
      (ended c s op).pending.get? key ≠ none

set_option maxRecDepth 4096 in
/-- The twelfth handshake drops the deposit that failed again. -/
theorem dropped_on_twelfth :
    ¬Runs.Meets (step healing id) (Spares healing) (fresh ())
      (.submit poison 0 [] :: List.replicate 12 (.submit handshake 0 [])) := by
  intro h
  have hruns : Runs.Meets (step healing id) (Spares healing) (fresh ())
      ((.submit poison 0 [] :: List.replicate 11 (.submit handshake 0 [])) ++
        .submit handshake 0 [] :: []) := h
  have hlast := Runs.Meets.step_of_append (step healing id) _ hruns
  have hkept := hlast handshake 0 [] ⟨true, false, false, true, true⟩ rfl (by decide) rfl rfl
    [⟨"m:seq:1", false⟩, ⟨"m:seq:2", true⟩] (by decide) "m:seq:1" ⟨poison, 11⟩ (by decide) (by decide)
  exact hkept (by decide)

/-- `run_fair` at that run. -/
theorem run_fair_poison :
    Runs.Meets (step healing id) (Fair healing) (fresh ())
      (.submit poison 0 [] :: List.replicate 12 (.submit handshake 0 [])) :=
  run_fair healing id (fresh ()) (buffer_empty _) _

end Poison

end RezChat.Inbox.Pipeline
