/-
A leaf is released only after its device is registered.

Publishing the sealed response is the release: from then on the leaf is authority away from
the home. The ceremony asks for the publication once the home has answered with the
certificate it bound. The sweep asks for it again on the strength of a journal row alone, and
the row is `pending` from before `device.add` was submitted. So what is published is
registered exactly as long as every row that a sweep finds pending and in time belongs to a
registration that the home has committed.
-/
import RezChat.Devices.Ceremony

set_option autoImplicit false

namespace RezChat.Devices

open List World Ceremony Option Runs

/-- Whatever was handed to `put` was registered at the home. -/
def RegisteredFirst (w : World) : Prop := ∀ leaf ∈ w.issued, leaf ∈ w.added

/-- The row that the first pass of a sweep reads next, if it will take it up. -/
def World.readsInTime (w : World) : Option PendingCeremonyRecord :=
  match w.sweep with
  | some s =>
    match s.pc with
    | .reading .resume key _ _ =>
      (w.journal.get? key).filter fun r => r.needsPublication && decide (s.now < r.expiresAtMs)
    | _ => none
  | none => none

/-- No sweep finds a row pending and in time in this step whose `device.add` the home has not
committed. -/
def ReadsCommitted (w : World) : Event → Prop
  | .sweepSettles .ok => ∀ r ∈ w.readsInTime, r.leaf ∈ w.added
  | _ => True

instance (w : World) : DecidablePred (ReadsCommitted w)
  | .sweepSettles .ok => inferInstanceAs (Decidable (∀ r ∈ w.readsInTime, r.leaf ∈ w.added))
  | .sweepSettles .threw | .sweepSettles .threwLate | .sweepSettles (.bound _)
  | .sweepSettles .rejected | .sweepSettles .declined | .sweepSettles .unproven
  | .start | .approve _ | .cancel | .recoverNow _ | .approver _ _ | .ceremonySettles _ _
  | .ceremonyGoes _ | .sweepGoes _ | .crash | .homeAdds _ _ | .homeRevokes _ => isTrue trivial

/-- Of these records those in time are registered. -/
def InTime (added : List (String × String)) (now : Nat) (rs : List PendingCeremonyRecord) :
    Prop :=
  ∀ r ∈ rs, now < r.expiresAtMs → r.leaf ∈ added

/-! ## The ceremony -/

namespace Ceremony

/-- What a ceremony was told the home committed, the home committed. -/
structure Backed (added : List (String × String)) (c : Ceremony) : Prop where
  registered : ∀ deviceId certId bound,
    c.progress = .registered deviceId certId bound → (deviceId, bound) ∈ added
  committed : ∀ deviceId certId bound,
    c.pc = .registerDevice deviceId certId → c.answer = some (.committed bound) →
      (deviceId, bound) ∈ added

variable {added : List (String × String)} {c : Ceremony}

theorem Backed.mono {added' : List (String × String)} (h : c.Backed added)
    (hsub : added ⊆ added') : c.Backed added' :=
  ⟨fun d x b hp => hsub (h.registered d x b hp),
    fun d x b hpc ha => hsub (h.committed d x b hpc ha)⟩

theorem backed_fresh : fresh.Backed added :=
  ⟨fun _ _ _ h => (nomatch h), fun _ _ _ h => (nomatch h)⟩

/-- A ceremony that suspends without an answer has been told nothing new. -/
theorem Backed.of_progress {c' : Ceremony} (h : c.Backed added)
    (hprogress : c'.progress = c.progress) (hanswer : c'.answer = none) : c'.Backed added :=
  ⟨fun d x b hp => h.registered d x b (hprogress ▸ hp),
    fun d x b _ ha => absurd (hanswer ▸ ha) (by simp)⟩

/-- The approver learns of a registration from the answer to `registerDevice` only. -/
theorem toApprover_backed (p : Progress)
    (hp : ∀ deviceId certId bound, p = .registered deviceId certId bound →
      (deviceId, bound) ∈ added) : (c.toApprover p).Backed added :=
  ⟨hp, fun _ _ _ hpc => nomatch hpc⟩

section

variable (h : c.Backed added)
include h

theorem backed_createRead (fields : PendingCeremonyRecord)
    (existing : Option PendingCeremonyRecord) : (c.createRead fields existing).Backed added := by
  cases existing with
  | none => exact h.of_progress rfl rfl
  | some e =>
    rw [createRead]
    split
    · exact h.of_progress rfl rfl
    · exact toApprover_backed _ (fun _ _ _ hp => nomatch hp)

theorem backed_markRead (target : PendingState)
    (existing : Option PendingCeremonyRecord) : (c.markRead target existing).Backed added := by
  cases existing with
  | none => exact h.of_progress rfl rfl
  | some e =>
    rw [markRead]
    split
    · exact h.of_progress rfl rfl
    · exact h.of_progress rfl rfl

theorem backed_resume {a : Answer} (ha : c.answer = some a) :
    (c.resume a).Backed added := by
  have gaveUp : (c.toApprover .gaveUp).Backed added := toApprover_backed _ fun _ _ _ hp => nomatch hp
  unfold resume
  split
  · exact h.of_progress rfl rfl
  · exact h.of_progress rfl rfl
  · exact h.of_progress rfl rfl
  · exact h.of_progress rfl rfl
  · exact h.of_progress rfl rfl
  · exact ⟨fun _ _ _ hp => (nomatch hp), fun _ _ _ hpc => (nomatch hpc)⟩
  · exact h.of_progress rfl rfl
  · exact h.of_progress rfl rfl
  · exact h.of_progress rfl rfl
  · exact backed_createRead h _ _
  · exact gaveUp
  · exact toApprover_backed _ fun _ _ _ hp => nomatch hp
  · exact gaveUp
  · rename_i deviceId certId bound hpc
    refine toApprover_backed _ fun d x b hp => ?_
    obtain ⟨rfl, rfl, rfl⟩ := Progress.registered.inj hp
    exact h.committed _ _ _ hpc ha
  · exact gaveUp
  · exact toApprover_backed _ fun _ _ _ hp => nomatch hp
  · exact gaveUp
  · exact backed_markRead h _ _
  · exact h.of_progress rfl rfl
  · exact h.of_progress rfl rfl
  · exact h

theorem backed_moves (m : Move) : (c.moves m).Backed added := by
  -- the answers that a move gives are none of `registerDevice`
  have answered (a : Answer) (ha : ∀ bound, a ≠ .committed bound) :
      Backed added { c with answer := some a } :=
    ⟨h.registered, fun _ _ b _ ha' => absurd (some.inj ha') (ha b)⟩
  unfold moves
  split
  any_goals exact answered _ fun _ => by simp
  any_goals exact h.of_progress rfl rfl
  exact h

theorem backed_cancelled : c.cancelled.Backed added := by
  rw [cancelled]
  split
  · exact ⟨h.registered, fun _ _ _ _ ha => (nomatch ha)⟩
  · exact ⟨h.registered, h.committed⟩

/-- What the approver publishes, it was told is registered. -/
theorem publishes_added {m : Move} (hfollows : Follows c m) :
    ∀ leaf ∈ c.publishes m, leaf ∈ added := by
  intro leaf hleaf
  unfold publishes at hleaf
  split at hleaf
  · rename_i deviceId certId hpc
    rw [mem_singleton] at hleaf
    rw [hleaf]
    exact h.registered _ _ _ hfollows
  · exact absurd hleaf not_mem_nil

end

end Ceremony

/-! ## The sweep -/

namespace Sweep

/-- What a sweep has still to publish, the home has committed. -/
def Backed (added : List (String × String)) (s : Sweep) : Prop :=
  match s.pc with
  | .reading .resume _ _ out =>
    InTime added s.now out ∧
      ∀ r, s.answer = some (.row (some r)) → r.state = .pending → InTime added s.now [r]
  | .republish r => r.leaf ∈ added ∧ InTime added s.now s.todo
  | .markGet _ .published => InTime added s.now s.todo
  | .markSet _ next => next.state = .published → InTime added s.now s.todo
  | _ => True

variable {added : List (String × String)} {s : Sweep}

theorem Backed.mono {added' : List (String × String)} (h : s.Backed added)
    (hsub : added ⊆ added') : s.Backed added' := by
  have inTime {rs : List PendingCeremonyRecord} (h : InTime added s.now rs) :
      InTime added' s.now rs := fun r hr hnow => hsub (h r hr hnow)
  unfold Backed at h ⊢
  split at h
  · exact ⟨inTime h.1, fun r ha hr => inTime (h.2 r ha hr)⟩
  · exact ⟨hsub h.1, inTime h.2⟩
  · exact inTime h
  · exact fun hn => inTime (h hn)
  · exact h

/-- Records that are out of time are skipped, so the record that is published next is in
time. -/
theorem backed_nextResumable (clock : Nat) :
    ∀ {todo : List PendingCeremonyRecord}, InTime added s.now todo →
      (nextResumable clock s todo).Backed added
  | [], _ => trivial
  | r :: todo, h => by
    have hrest : InTime added s.now todo := fun e he => h e (mem_cons_of_mem _ he)
    rw [nextResumable]
    split
    · exact backed_nextResumable clock hrest
    · rename_i hnow
      exact ⟨h r mem_cons_self (by omega), hrest⟩

/-- The second pass publishes nothing. -/
theorem backed_nextCompensatable {todo : List PendingCeremonyRecord} {s' : Sweep}
    (h : s.nextCompensatable todo = some s') : s'.Backed added := by
  cases todo with
  | nil => exact absurd h (by simp [nextCompensatable])
  | cons r todo =>
    have heq := (some.inj h).symm
    by_cases hr : r.state = .pending
    · rw [heq, if_pos hr]; trivial
    · rw [heq, if_neg hr]; trivial

theorem backed_readNext (clock : Nat) {pass : Pass} {out : List PendingCeremonyRecord}
    (h : pass = .resume → InTime added s.now out) :
    ∀ {keys : List String} {s' : Sweep}, s.readNext clock pass out keys = some s' →
      s'.Backed added := by
  intro keys s' hs'
  cases pass with
  | resume =>
    cases keys with
    | nil =>
      rw [← some.inj hs']
      exact backed_nextResumable clock (h rfl)
    | cons key rest =>
      rw [← some.inj hs']
      exact ⟨h rfl, fun r ha => absurd ha (by simp [await])⟩
  | compensate =>
    cases keys with
    | nil => exact backed_nextCompensatable hs'
    | cons key rest =>
      rw [← some.inj hs']
      trivial

theorem backed_afterMark (clock : Nat) {r : PendingCeremonyRecord} {target : PendingState}
    {ok : Bool} {s' : Sweep} (h : target = .published → InTime added s.now s.todo)
    (hs' : s.afterMark clock r target ok = some s') : s'.Backed added := by
  rw [afterMark] at hs'
  split at hs'
  · rename_i htarget
    rw [← some.inj hs']
    exact backed_nextResumable clock (h htarget)
  · split at hs'
    · rw [← some.inj hs']
      trivial
    · exact backed_nextCompensatable hs'

/-- What is awaited next publishes nothing by itself. -/
theorem backed_await {a : SweepAt} {s' : Sweep} (hs' : some (s.await a) = some s')
    (ha : (s.await a).Backed added) : s'.Backed added := some.inj hs' ▸ ha

section

variable (h : s.Backed added)
include h

theorem Backed.out {key : String} {rest : List String}
    {out : List PendingCeremonyRecord} (hpc : s.pc = .reading .resume key rest out) :
    InTime added s.now out := by
  unfold Backed at h
  rw [hpc] at h
  exact h.1

/-- What the row just read adds to the work-list is registered if it is in time. -/
theorem Backed.selected {key : String} {rest : List String}
    {out : List PendingCeremonyRecord} {r : PendingCeremonyRecord}
    (hpc : s.pc = .reading .resume key rest out) (ha : s.answer = some (.row (some r))) :
    InTime added s.now (if s.selects .resume r then out ++ [r] else out) := by
  have hout := h.out hpc
  unfold Backed at h
  rw [hpc] at h
  by_cases hr : r.state = .pending
  · have hsel : s.selects .resume r = true := decide_eq_true hr
    rw [if_pos hsel]
    intro e he hnow
    rcases mem_append.mp he with he | he
    · exact hout e he hnow
    · exact h.2 r ha hr e he hnow
  · have hsel : ¬ s.selects .resume r = true := fun h => hr (of_decide_eq_true h)
    rw [if_neg hsel]
    exact hout

/-- While the first pass marks a record, the rest of its work-list stands. -/
theorem Backed.todo_markGet {r : PendingCeremonyRecord}
    {target : PendingState} (hpc : s.pc = .markGet r target) (htarget : target = .published) :
    InTime added s.now s.todo := by
  unfold Backed at h
  rw [hpc, htarget] at h
  exact h

theorem Backed.todo_markSet {r next : PendingCeremonyRecord}
    (hpc : s.pc = .markSet r next) (hnext : next.state = .published) :
    InTime added s.now s.todo := by
  unfold Backed at h
  rw [hpc] at h
  exact h hnext

theorem Backed.republish {r : PendingCeremonyRecord}
    (hpc : s.pc = .republish r) : r.leaf ∈ added ∧ InTime added s.now s.todo := by
  unfold Backed at h
  rw [hpc] at h
  exact h

theorem backed_resume {clock : Nat} {a : Answer} {s' : Sweep}
    (ha : s.answer = some a) (hs' : s.resume clock a = some s') : s'.Backed added := by
  unfold resume at hs'
  split at hs'
  · exact backed_readNext clock (fun _ r hr => absurd hr not_mem_nil) hs'
  · exact absurd hs' (by simp)
  · rename_i pass _ rest out hpc
    refine backed_readNext clock (fun hpass => ?_) hs'
    exact h.out (hpass ▸ hpc)
  · rename_i pass _ rest out r hpc
    refine backed_readNext clock (fun hpass => ?_) hs'
    subst hpass
    exact h.selected hpc ha
  · exact absurd hs' (by simp)
  · rename_i r hpc
    exact backed_await hs' (h.republish hpc).2
  · rename_i r _ hpc _
    rw [← some.inj hs']
    exact backed_nextResumable clock (h.republish hpc).2
  · rename_i r target e hpc
    split at hs'
    · exact backed_await hs' fun htarget => h.todo_markGet hpc htarget
    · exact backed_afterMark clock (h.todo_markGet hpc) hs'
  · rename_i r target _ hpc _
    exact backed_afterMark clock (h.todo_markGet hpc) hs'
  · rename_i r next hpc
    exact backed_afterMark clock (h.todo_markSet hpc) hs'
  · rename_i r next _ hpc _
    exact backed_afterMark clock (h.todo_markSet hpc) hs'
  -- from here on it is the second pass, which publishes nothing
  · split at hs'
    · exact backed_await hs' trivial
    · exact backed_await hs' trivial
  · exact backed_nextCompensatable hs'
  · exact backed_await hs' trivial
  · split at hs'
    · exact backed_await hs' trivial
    · exact backed_nextCompensatable hs'
  · exact backed_nextCompensatable hs'
  · split at hs'
    · exact backed_await hs' trivial
    · exact backed_nextCompensatable hs'
  · exact backed_nextCompensatable hs'
  · split at hs'
    · exact backed_await hs' trivial
    · exact backed_nextCompensatable hs'
  · exact backed_nextCompensatable hs'
  · split at hs'
    · exact backed_await hs' trivial
    · exact backed_nextCompensatable hs'
  · exact backed_nextCompensatable hs'
  · exact backed_nextCompensatable hs'
  · exact backed_nextCompensatable hs'

end

/-- What a sweep asks to publish, the home has committed. -/
theorem publishes_added {s : Option Sweep} (h : ∀ s' ∈ s, s'.Backed added) :
    ∀ leaf ∈ publishes s, leaf ∈ added := by
  intro leaf hleaf
  unfold publishes at hleaf
  split at hleaf
  · rename_i s'
    split at hleaf
    · rename_i r hpc
      rw [mem_singleton] at hleaf
      rw [hleaf]
      exact ((h s' rfl).republish hpc).1
    · exact absurd hleaf not_mem_nil
  · exact absurd hleaf not_mem_nil

/-- An awaited call of the sweep is answered. Only a row that a work-list reads matters, and
the home has committed it. -/
theorem backed_settles {w : World} {reply : Reply} (h : s.Backed w.added)
    (hsweep : w.sweep = some s) (hreads : ReadsCommitted w (.sweepSettles reply)) :
    Backed (w.perform s.call? reply).1.added
      { s with answer := some (w.perform s.call? reply).2 } := by
  have hmono := h.mono (perform_added w s.call? reply)
  unfold Backed at hmono ⊢
  dsimp only
  split at hmono
  · rename_i key rest out hpc
    refine ⟨hmono.1, fun r ha hr e he hnow => ?_⟩
    have hcall : s.call? = .get key := by rw [call?, hpc]
    rw [hcall] at ha
    obtain ⟨rfl, hrow⟩ := perform_row (some.inj ha)
    rw [mem_singleton] at he
    subst he
    have hread : w.readsInTime = some e := by
      rw [readsInTime, hsweep]
      dsimp only
      rw [hpc]
      dsimp only
      rw [hrow]
      simp [PendingCeremonyRecord.needsPublication, hr, hnow]
    exact perform_added w s.call? .ok (hreads e hread)
  · exact hmono
  · exact hmono
  · exact hmono
  · exact hmono

end Sweep

/-! ## Runs -/

/-- What is known of the world while only registered leaves are published. -/
structure Backed (w : World) : Prop where
  issued : RegisteredFirst w
  ceremonies : ∀ i c, w.ceremony? i = some c → c.Backed w.added
  sweep : ∀ s, w.sweep = some s → s.Backed w.added

theorem backed_initial : Backed initial :=
  ⟨fun _ h => absurd h not_mem_nil, fun _ _ h => absurd h (by simp [ceremony?, initial]),
    fun _ h => absurd h (by simp [initial])⟩

namespace Backed

variable {w : World}

/-- A step of one ceremony. -/
theorem put (h : Backed w) {i : Nat} {c : Ceremony} (hc : c.Backed w.added) :
    Backed (w.put i c) := by
  refine ⟨h.issued, fun j c' hj => ?_, h.sweep⟩
  obtain ⟨-, rfl⟩ | ⟨-, hj⟩ := ceremony?_put hj
  · exact hc
  · exact h.ceremonies j c' hj

/-- The home commits, and nobody is told. -/
theorem perform (h : Backed w) (call : Call) (reply : Reply) :
    Backed (w.perform call reply).1 := by
  have hsub := perform_added w call reply
  refine ⟨fun leaf hleaf => ?_, fun i c hc => ?_, fun s hs => ?_⟩
  · rw [perform_issued] at hleaf
    exact hsub (h.issued leaf hleaf)
  · rw [ceremony?, perform_ceremonies] at hc
    exact (h.ceremonies i c hc).mono hsub
  · rw [perform_sweep] at hs
    exact (h.sweep s hs).mono hsub

theorem step (h : Backed w) {e : Event} (hfollows : w.ApproverFollows e)
    (hreads : ReadsCommitted w e) : Backed (w.step e) := by
  cases e with
  | start =>
    show Backed w.startCeremony
    rw [startCeremony]
    split
    · refine ⟨h.issued, fun i c hc => ?_, h.sweep⟩
      have hmem : c ∈ w.ceremonies ++ [fresh] := mem_of_getElem? hc
      rcases mem_append.mp hmem with hmem | hmem
      · obtain ⟨j, hj⟩ := getElem?_of_mem hmem
        exact h.ceremonies j c hj
      · rw [mem_singleton.mp hmem]
        exact backed_fresh
    · exact h
  | approve newDeviceId =>
    obtain heq | ⟨i, c, hlive, -, heq⟩ := approve_cases w newDeviceId
    · rw [World.step, heq]; exact h
    · rw [World.step, heq]
      have hc := h.ceremonies i c (live?_eq hlive).2
      exact h.put ⟨hc.registered, fun _ _ _ _ ha => (nomatch ha)⟩
  | cancel =>
    obtain heq | ⟨i, c, hlive, heq⟩ := cancel_cases w
    · rw [World.step, heq]; exact h
    · rw [World.step, heq]
      exact h.put (backed_cancelled (h.ceremonies i c (live?_eq hlive).2))
  | recoverNow clock =>
    show Backed (w.recoverNow clock)
    rw [recoverNow]
    split
    · exact h
    · refine ⟨h.issued, h.ceremonies, fun s hs => ?_⟩
      rw [← some.inj hs]
      trivial
  | approver i m =>
    obtain heq | ⟨c, hc, -, heq⟩ := approverMoves_cases w i m
    · rw [World.step, heq]; exact h
    · rw [World.step, heq]
      have hbacked := h.ceremonies i c hc
      have hput := h.put (i := i) (backed_moves hbacked m)
      refine ⟨fun leaf hleaf => ?_, hput.ceremonies, h.sweep⟩
      rcases mem_append.mp hleaf with hleaf | hleaf
      · exact publishes_added hbacked (hfollows c hc) leaf hleaf
      · exact h.issued leaf hleaf
  | ceremonySettles i reply =>
    obtain heq | ⟨c, call, hc, hcall, hanswer, heq⟩ := ceremonySettles_cases w i reply
    · rw [World.step, heq]; exact h
    · rw [World.step, heq]
      have hbacked := (h.ceremonies i c hc).mono (perform_added w call reply)
      refine (h.perform call reply).put ⟨hbacked.registered, fun d x b hpc ha => ?_⟩
      have hadd : call = .deviceAdd d x := by
        have hpc' : c.pc = .registerDevice d x := hpc
        rw [call?, hpc'] at hcall
        exact (some.inj hcall).symm
      subst hadd
      exact perform_committed (some.inj ha)
  | ceremonyGoes i =>
    obtain heq | ⟨c, a, hc, ha, heq⟩ := ceremonyGoes_cases w i
    · rw [World.step, heq]; exact h
    · rw [World.step, heq]
      have hput := h.put (i := i) (backed_resume (h.ceremonies i c hc) ha)
      exact ⟨hput.issued, hput.ceremonies, hput.sweep⟩
  | sweepSettles reply =>
    obtain heq | ⟨s, hs, hanswer, heq⟩ := sweepSettles_cases w reply
    · rw [World.step, heq]; exact h
    · rw [World.step, heq]
      have hw := h.perform s.call? reply
      refine ⟨hw.issued, hw.ceremonies, fun s' hs' => ?_⟩
      rw [← some.inj hs']
      exact Sweep.backed_settles (h.sweep s hs) hs hreads
  | sweepGoes clock =>
    obtain heq | ⟨s, a, hs, ha, heq⟩ := sweepGoes_cases w clock
    · rw [World.step, heq]; exact h
    · rw [World.step, heq]
      have hnext : ∀ s' ∈ s.resume clock a, s'.Backed w.added :=
        fun s' hs' => Sweep.backed_resume (h.sweep s hs) ha hs'
      refine ⟨fun leaf hleaf => ?_, h.ceremonies, hnext⟩
      rcases mem_append.mp hleaf with hleaf | hleaf
      · exact Sweep.publishes_added hnext leaf hleaf
      · exact h.issued leaf hleaf
  | crash =>
    exact ⟨h.issued, fun i c hc => absurd hc (by simp [World.step, World.ceremony?]),
      fun s hs => absurd hs (by simp [World.step])⟩
  | homeAdds deviceId certId =>
    have hsub : w.added ⊆ (deviceId, certId) :: w.added := subset_cons_self _ _
    exact ⟨fun leaf hleaf => hsub (h.issued leaf hleaf),
      fun i c hc => (h.ceremonies i c hc).mono hsub, fun s hs => (h.sweep s hs).mono hsub⟩
  | homeRevokes certId => exact ⟨h.issued, h.ceremonies, h.sweep⟩

end Backed

/-- Whatever crashes, fails or overlaps: as long as every row that a sweep finds pending and
in time is of a registration the home has committed, no leaf is released before its
`device.add` is committed. -/
theorem registered_before_release (es : List Event)
    (hruns : Runs.Meets step (fun w e => w.ApproverFollows e ∧ ReadsCommitted w e)
      initial es) :
    RegisteredFirst (run step initial es) := by
  have hbacked : Backed (run step initial es) :=
    invariant step (I := Backed) (fun _ _ h hok => h.step hok.1 hok.2) es
      initial backed_initial hruns
  exact hbacked.issued

/-- The server dies between the commit of `device.add` and the publication, and the next
sweep makes up for it. -/
theorem registered_before_release_crash :
    let es := journals ++ [.approver 0 (.registerDevice "phone" "leaf"), .ceremonySettles 0 .ok,
      .ceremonyGoes 0, .crash] ++ sweeps 10
    (run step initial es).issued = [("phone", "leaf")] ∧
      RegisteredFirst (run step initial es) :=
  ⟨by decide, registered_before_release _ (by decide)⟩

/-- The server dies before `device.add`, and the next sweep releases the leaf. -/
theorem released_unregistered :
    ¬ ∀ es : List Event, Runs.Meets step World.ApproverFollows initial es →
      RegisteredFirst (run step initial es) := by
  intro h
  have hregistered := h (journals ++ [.crash] ++ sweeps 10) (by decide)
  have hissued : (run step initial (journals ++ [.crash] ++ sweeps 10)).issued =
      [("phone", "leaf")] := by decide
  have hadded : (run step initial (journals ++ [.crash] ++ sweeps 10)).added =
      [] := by decide
  have hmem := hregistered ("phone", "leaf") (by rw [hissued]; exact mem_singleton_self _)
  rw [hadded] at hmem
  exact not_mem_nil hmem

end RezChat.Devices
