/-
One ceremony at a time, and no sweep beside an approval.

Both rules rest on a look at the field `#ceremony`, and an `await` follows each look. A
ceremony is not in the field until its approver has started, so a second call of
`startCeremony` finds the field as the first did. A cancelled ceremony counts as over, although
its approver may still be at work, or its next step be queued behind a promise that has
settled. And nothing looks whether a sweep is under way when a ceremony is started or
approved. Where no call falls into one of these gaps, both rules hold.
-/
import RezChat.Devices.Ceremony

set_option autoImplicit false

namespace RezChat.Devices

open World Runs Option List

namespace Ceremony

/-! ## What a ceremony is doing -/

/-- It shows a state that is not terminal. -/
def active (c : Ceremony) : Bool :=
  decide (c.pc ≠ .starting ∧ (c.state = .codeIssued ∨ c.state = .pending ∨ c.state = .responding))

/-- Its approval is in progress: from the creation of its journal record until its response
is published, or it fails. -/
def inApproval (c : Ceremony) : Bool :=
  match c.pc, c.progress with
  | .createGet _, _ => true
  | .createSet _, _ => true
  | .registerDevice _ _, _ => true
  | .publish _ _, _ => true
  | .approve, .persisted _ _ => true
  | .approve, .registered _ _ _ => true
  | _, _ => false

/-- It will come to its approval whatever is called: the human has approved it, or its
approver is at work and nothing is published. -/
def committed (c : Ceremony) : Bool :=
  decide (c.pc = .parked ∧ c.answer = some .done) ||
  decide (c.pc = .approve ∧ c.progress = .began) || c.inApproval

/-- The new device has answered, and the ceremony has not gone on yet. -/
def requested (c : Ceremony) : Bool :=
  match c.pc, c.answer with
  | .waitForRequest, some (.request _) => true
  | _, _ => false

/-- It is under way, or about to be. -/
def live (c : Ceremony) : Bool :=
  decide (c.pc = .starting) || c.active || c.requested || c.committed

/-- It shows a terminal state, and will go on all the same. -/
def adrift (c : Ceremony) : Bool := !c.active && (c.requested || c.committed)

/-- At most one thing is under way. -/
def busy (c : Ceremony) : Bool := c.active || c.inApproval

end Ceremony

/-! ## The law -/

/-- At most one ceremony is active, an approval in flight included. -/
def AtMostOne (w : World) : Prop :=
  ∀ i j c c', w.ceremony? i = some c → w.ceremony? j = some c' → c.busy = true →
    c'.busy = true → i = j

/-- No sweep is under way while an approval is in progress. -/
def NoOverlap (w : World) : Prop :=
  w.sweep.isSome = true → ∀ c ∈ w.ceremonies, c.inApproval = false

/-- `approveCeremony` takes the approval. -/
def World.accepts (w : World) (newDeviceId : String) : Bool :=
  match w.live? with
  | some (_, c) => decide (c.state = .pending ∧ c.armed = true ∧ newDeviceId = c.newDeviceId)
  | none => false

/-- No call falls between a look at `#ceremony` and what the look was for. -/
def Serialized (w : World) : Event → Prop
  | .start =>
    w.mayStart = true → ∀ c ∈ w.ceremonies, c.pc ≠ .starting ∧ c.adrift = false
  | .recoverNow _ =>
    w.sweep = none → w.ceremonyIsActive = false → ∀ c ∈ w.ceremonies, c.committed = false
  | .approve newDeviceId => w.accepts newDeviceId = true → w.sweep = none
  | _ => True

instance (w : World) : DecidablePred (Serialized w)
  | .start =>
    inferInstanceAs (Decidable
      (w.mayStart = true → ∀ c ∈ w.ceremonies, c.pc ≠ .starting ∧ c.adrift = false))
  | .recoverNow _ =>
    inferInstanceAs (Decidable
      (w.sweep = none → w.ceremonyIsActive = false → ∀ c ∈ w.ceremonies, c.committed = false))
  | .approve newDeviceId =>
    inferInstanceAs (Decidable (w.accepts newDeviceId = true → w.sweep = none))
  | .cancel | .approver _ _ | .ceremonySettles _ _ | .ceremonyGoes _ | .sweepSettles _
  | .sweepGoes _ | .crash | .homeAdds _ _ | .homeRevokes _ => isTrue trivial

/-! ## The ceremony -/

namespace Ceremony

variable {c : Ceremony}

/-- While a ceremony waits for a device it shows its code, unless it was cancelled, and it
marks what it has published. -/
structure Sound (c : Ceremony) : Prop where
  waits : c.pc = .starting ∨ c.pc = .waitForRequest → c.aborted = false → c.state = .codeIssued
  marksGet : ∀ deviceId target, c.pc = .markGet deviceId target → ∃ d, c.progress = .published d
  marksSet : ∀ r, c.pc = .markSet r → ∃ d, c.progress = .published d

/-- What of a ceremony a step may not make anew. -/
structure Settled (c c' : Ceremony) : Prop where
  live : c'.live = true → c.live = true
  committed : c'.committed = true → c.committed = true

theorem committed_of_inApproval (h : c.inApproval = true) : c.committed = true := by
  rw [committed, h, Bool.or_true]

theorem live_of_committed (h : c.committed = true) : c.live = true := by
  rw [live, h, Bool.or_true]

theorem live_of_requested (h : c.requested = true) : c.live = true := by
  rw [live, h, Bool.or_true, Bool.true_or]

theorem live_of_active (h : c.active = true) : c.live = true := by
  rw [live, h, Bool.or_true, Bool.true_or, Bool.true_or]

theorem live_of_starting (h : c.pc = .starting) : c.live = true := by
  rw [live, decide_eq_true h, Bool.true_or, Bool.true_or, Bool.true_or]

theorem live_of_busy (h : c.busy = true) : c.live = true := by
  rcases Bool.or_eq_true_iff.mp h with h | h
  · exact live_of_active h
  · exact live_of_committed (committed_of_inApproval h)

theorem Settled.refl (c : Ceremony) : Settled c c := ⟨id, id⟩

variable {c' : Ceremony}

/-- Where the ceremony was committed to its approval, anything may follow. -/
theorem Settled.of_committed (h : c.committed = true) : Settled c c' :=
  ⟨fun _ => live_of_committed h, fun _ => h⟩

/-- A ceremony that is over, or that waits for an answer, is committed to nothing. -/
theorem Settled.of_live (h : c.live = true) (h' : c'.committed = false) :
    Settled c c' :=
  ⟨fun _ => h, fun hc => absurd (h'.symm.trans hc) (by simp)⟩

/-- What has ended shows a terminal state, and that is all it does. -/
theorem Settled.of_ended (hpc : c'.pc = .ended)
    (hstate : c'.state = .confirmed ∨ c'.state = .failed ∨ c'.state = .expired ∨
      c'.state = .cancelled) : Settled c c' := by
  have hcommitted : c'.committed = false := by simp [Ceremony.committed, inApproval, hpc]
  have hactive : c'.active = false := by
    obtain h | h | h | h := hstate
    all_goals simp [active, h]
  have hlive : c'.live = false := by
    simp [Ceremony.live, hactive, hcommitted, requested, hpc]
  exact ⟨fun h => absurd (hlive.symm.trans h) (by simp),
    fun h => absurd (hcommitted.symm.trans h) (by simp)⟩

/-- What has published its response goes on as it was. -/
theorem Settled.of_published {a : CeremonyAt} {d : String} (hprogress : c.progress = .published d)
    (hstarting : c.pc ≠ .starting)
    (ha : a = .approve ∨ (∃ r, a = .markSet r) ∨ ∃ d t, a = .markGet d t) :
    Settled c (c.await a) := by
  have hcommitted : (c.await a).committed = false := by
    obtain rfl | ⟨r, rfl⟩ | ⟨d, t, rfl⟩ := ha
    all_goals simp [Ceremony.committed, inApproval, hprogress]
  have hactive : (c.await a).active = true → c.active = true := by
    intro h
    have hstate := (of_decide_eq_true h).2
    exact decide_eq_true ⟨hstarting, hstate⟩
  refine ⟨fun h => ?_, fun h => absurd (hcommitted.symm.trans h) (by simp)⟩
  apply live_of_active
  apply hactive
  obtain rfl | ⟨r, rfl⟩ | ⟨d, t, rfl⟩ := ha
  all_goals simpa [Ceremony.live, hcommitted, requested] using h

/-- The approver only goes on with what it was at. -/
theorem settled_moves (h : c.Sound) (hanswer : c.answer = none) {m : Move}
    (hfollows : Follows c m) : Settled c (c.moves m) := by
  unfold moves
  split
  · rename_i hpc
    exact .of_live (live_of_starting hpc) (by simp [committed, inApproval, hpc])
  · rename_i hpc
    exact .of_live (live_of_starting hpc) (by simp [committed, inApproval, hpc])
  · rename_i d hpc
    -- a device is heard of only while the code is shown
    have hstate := h.waits (.inr hpc) hfollows
    exact .of_live (live_of_active (by simp [active, hpc, hstate]))
      (by simp [committed, inApproval, hpc])
  · rename_i hpc
    refine ⟨fun hlive => ?_, fun hc => absurd hc (by simp [committed, inApproval, hpc])⟩
    simpa [live, active, requested, committed, inApproval, hpc, hanswer] using hlive
  · rename_i hpc
    refine ⟨fun hlive => ?_, fun hc => absurd hc (by simp [committed, inApproval, hpc])⟩
    simpa [live, active, requested, committed, inApproval, hpc, hanswer] using hlive
  · rename_i fields hpc
    exact .of_committed (by simp [committed, hpc, hfollows.1])
  · rename_i d x hpc
    have hprogress : c.progress = .persisted d x := hfollows
    exact .of_committed (committed_of_inApproval (by rw [inApproval, hpc, hprogress]))
  · rename_i d x hpc
    have hprogress : c.progress = .registered d x x := hfollows
    exact .of_committed (committed_of_inApproval (by rw [inApproval, hpc, hprogress]))
  · rename_i d hpc
    exact .of_published hfollows (by simp [hpc]) (.inr (.inr ⟨_, _, rfl⟩))
  · rename_i d hpc
    exact .of_published hfollows (by simp [hpc]) (.inr (.inr ⟨_, _, rfl⟩))
  · rename_i hpc
    refine ⟨fun hlive => ?_, fun hc => ?_⟩
    · simpa [live, active, requested, committed, inApproval, hpc] using hlive
    · simpa [committed, inApproval, hpc] using hc
  · rename_i hpc
    refine ⟨fun hlive => ?_, fun hc => ?_⟩
    · simpa [live, active, requested, committed, inApproval, hpc] using hlive
    · simpa [committed, inApproval, hpc] using hc
  · exact .refl c

/-- A ceremony only goes on with what it was at. -/
theorem settled_resume (h : c.Sound) {a : Answer} (ha : c.answer = some a) :
    Settled c (c.resume a) := by
  unfold resume
  split
  · rename_i hpc
    exact .of_live (live_of_starting hpc) (by simp [committed, inApproval])
  · exact .of_ended rfl (.inr (.inl rfl))
  · rename_i d hpc
    exact .of_live (live_of_requested (by rw [requested, hpc, ha]))
      (by simp [committed, inApproval])
  · exact .of_ended rfl (.inr (.inr (.inr rfl)))
  · exact .of_ended rfl (.inr (.inr (.inl rfl)))
  · rename_i hpc
    exact .of_committed (by simp [committed, hpc, ha])
  · exact .of_ended rfl (.inr (.inr (.inr rfl)))
  · exact .of_ended rfl (.inl rfl)
  · exact .of_ended rfl (.inr (.inl rfl))
  · rename_i hpc
    exact .of_committed (committed_of_inApproval (by rw [inApproval, hpc]))
  · rename_i hpc _
    exact .of_committed (committed_of_inApproval (by rw [inApproval, hpc]))
  · rename_i hpc
    exact .of_committed (committed_of_inApproval (by rw [inApproval, hpc]))
  · rename_i hpc _
    exact .of_committed (committed_of_inApproval (by rw [inApproval, hpc]))
  · rename_i hpc
    exact .of_committed (committed_of_inApproval (by rw [inApproval, hpc]))
  · rename_i hpc _
    exact .of_committed (committed_of_inApproval (by rw [inApproval, hpc]))
  · rename_i hpc
    exact .of_committed (committed_of_inApproval (by rw [inApproval, hpc]))
  · rename_i hpc _
    exact .of_committed (committed_of_inApproval (by rw [inApproval, hpc]))
  · rename_i d target existing hpc
    obtain ⟨d', hprogress⟩ := h.marksGet d target hpc
    have hstarting : c.pc ≠ .starting := by simp [hpc]
    unfold markRead
    split
    · exact .of_published hprogress hstarting (.inl rfl)
    · split
      · exact .of_published hprogress hstarting (.inr (.inl ⟨_, rfl⟩))
      · exact .of_published hprogress hstarting (.inl rfl)
  · rename_i _ d target hpc _
    obtain ⟨d', hprogress⟩ := h.marksGet d target hpc
    exact .of_published hprogress (by simp [hpc]) (.inl rfl)
  · rename_i _ r hpc
    obtain ⟨d', hprogress⟩ := h.marksSet r hpc
    exact .of_published hprogress (by simp [hpc]) (.inl rfl)
  · exact .refl c

theorem settled_cancelled (c : Ceremony) : Settled c c.cancelled := by
  unfold cancelled
  split
  · constructor
    · intro h
      simp only [live, requested, committed, Bool.or_eq_true, decide_eq_true_eq] at h ⊢
      rcases h with ((h | h) | h) | (⟨-, h⟩ | h) | h
      · exact .inl (.inl (.inl h))
      · exact .inl (.inl (.inr h))
      · split at h
        · rename_i hanswer; exact absurd (some.inj hanswer) (by simp)
        · exact absurd h (by simp)
      · exact absurd (some.inj h) (by simp)
      · exact .inr (.inl (.inr h))
      · exact .inr (.inr h)
    · intro h
      simp only [committed, Bool.or_eq_true, decide_eq_true_eq] at h ⊢
      rcases h with (⟨-, h⟩ | h) | h
      · exact absurd (some.inj h) (by simp)
      · exact .inl (.inr h)
      · exact .inr h
  · refine ⟨fun h => ?_, id⟩
    have hactive (s : CeremonyState)
        (hs : s = if c.state = .confirmed ∨ c.state = .failed ∨ c.state = .expired then c.state
          else .cancelled) :
        s = .codeIssued ∨ s = .pending ∨ s = .responding →
          c.state = .codeIssued ∨ c.state = .pending ∨ c.state = .responding := by
      intro h
      split at hs
      · rwa [← hs]
      · subst hs; exact absurd h (by simp)
    simp only [live, active, Bool.or_eq_true, decide_eq_true_eq] at h ⊢
    rcases h with ((h | h) | h) | h
    · exact .inl (.inl (.inl h))
    · exact .inl (.inl (.inr ⟨h.1, hactive _ rfl h.2⟩))
    · exact .inl (.inr h)
    · exact .inr h

/-- The answer to a call of the approver's changes nothing of what the ceremony is at. -/
theorem settled_answered {call : Call} (hcall : c.call? = some call) {a : Option Answer} :
    Settled c { c with answer := a } := by
  unfold call? at hcall
  split at hcall
  · rename_i hpc; exact .of_committed (committed_of_inApproval (by rw [inApproval, hpc]))
  · rename_i hpc; exact .of_committed (committed_of_inApproval (by rw [inApproval, hpc]))
  · rename_i hpc; exact .of_committed (committed_of_inApproval (by rw [inApproval, hpc]))
  · rename_i hpc; exact .of_committed (committed_of_inApproval (by rw [inApproval, hpc]))
  · rename_i hpc
    exact ⟨by simp [live, active, requested, committed, inApproval, hpc],
      by simp [committed, inApproval, hpc]⟩
  · rename_i hpc
    exact ⟨by simp [live, active, requested, committed, inApproval, hpc],
      by simp [committed, inApproval, hpc]⟩
  · exact absurd hcall (by simp)

theorem resume_startFails (hpc : c.pc = .starting) {a : Answer} (ha : a ≠ .done) :
    c.resume a = c.finish .failed := by
  unfold resume
  rw [hpc]
  cases a with
  | done => exact absurd rfl ha
  | _ => rfl

/-- Only `startCeremony` leaves the start of an approver. -/
theorem moves_starting (m : Move) (h : (c.moves m).pc ≠ .starting) : c.pc ≠ .starting := by
  intro hpc
  refine h ?_
  unfold moves
  split
  all_goals first | exact hpc | simp_all

theorem sound_fresh : fresh.Sound :=
  ⟨fun _ _ => rfl, fun _ _ h => (nomatch h), fun _ h => (nomatch h)⟩

/-- A ceremony that is told something is where it was. -/
theorem Sound.of_same (h : c.Sound) (hpc : c'.pc = c.pc)
    (haborted : c'.aborted = c.aborted) (hstate : c'.state = c.state)
    (hprogress : c'.progress = c.progress) : c'.Sound := by
  refine ⟨fun hw ha => ?_, fun d t hm => ?_, fun r hm => ?_⟩
  · rw [hpc] at hw; rw [haborted] at ha; rw [hstate]; exact h.waits hw ha
  · rw [hpc] at hm; rw [hprogress]; exact h.marksGet d t hm
  · rw [hpc] at hm; rw [hprogress]; exact h.marksSet r hm

/-- A ceremony that neither waits for a device nor marks anything has nothing to keep. -/
theorem Sound.of_await (hpc : c'.pc ≠ .starting ∧ c'.pc ≠ .waitForRequest)
    (hget : ∀ d t, c'.pc ≠ .markGet d t) (hset : ∀ r, c'.pc ≠ .markSet r) : c'.Sound :=
  ⟨fun h _ => absurd h (by simp [hpc]), fun d t h => absurd h (hget d t),
    fun r h => absurd h (hset r)⟩

/-- What marks a publication has published. -/
theorem Sound.of_marks {a : CeremonyAt} (h : ∃ d, c.progress = .published d)
    (hpc : a ≠ .starting ∧ a ≠ .waitForRequest) : (c.await a).Sound :=
  ⟨fun hw _ => absurd hw (by simp [hpc]), fun _ _ _ => h, fun _ _ => h⟩

theorem sound_moves (h : c.Sound) {m : Move} (hfollows : Follows c m) : (c.moves m).Sound := by
  unfold moves
  split
  all_goals first
    | exact h.of_same rfl rfl rfl rfl
    | exact .of_marks ⟨_, hfollows⟩ (by simp)
    | exact .of_await (by simp) (by simp) (by simp)

theorem sound_cancelled (h : c.Sound) : c.cancelled.Sound := by
  unfold cancelled
  split
  · exact h.of_same rfl rfl rfl rfl
  · exact ⟨fun _ ha => absurd ha (by simp), h.marksGet, h.marksSet⟩

theorem sound_resume (h : c.Sound) {a : Answer} : (c.resume a).Sound := by
  have ended {s : CeremonyState} : (c.finish s).Sound :=
    .of_await (by simp [finish]) (by simp [finish]) (by simp [finish])
  have approver {p : Progress} : (c.toApprover p).Sound :=
    .of_await (by simp [toApprover]) (by simp [toApprover]) (by simp [toApprover])
  unfold resume
  split
  · rename_i hpc
    exact ⟨fun _ ha => h.waits (.inl hpc) ha, fun _ _ hm => (nomatch hm), fun _ hm => (nomatch hm)⟩
  · exact ended
  · exact .of_await (by simp) (by simp) (by simp)
  · exact ended
  · exact ended
  · exact .of_await (by simp [toApprover]) (by simp [toApprover]) (by simp [toApprover])
  · exact .of_await (by simp [finish]) (by simp [finish]) (by simp [finish])
  · exact ended
  · exact ended
  · unfold createRead
    split
    · exact .of_await (by simp) (by simp) (by simp)
    · split
      · exact .of_await (by simp) (by simp) (by simp)
      · exact approver
  · exact approver
  · exact approver
  · exact approver
  · exact approver
  · exact approver
  · exact approver
  · exact approver
  · rename_i d target existing hpc
    have hprogress := h.marksGet d target hpc
    unfold markRead
    split
    · exact .of_marks hprogress (by simp)
    · split
      · exact .of_marks hprogress (by simp)
      · exact .of_marks hprogress (by simp)
  · exact .of_await (by simp) (by simp) (by simp)
  · exact .of_await (by simp) (by simp) (by simp)
  · exact h

end Ceremony

/-! ## Runs -/

/-- What is known of the world while its calls are serialized. -/
structure Serial (w : World) : Prop where
  sound : ∀ i c, w.ceremony? i = some c → c.Sound
  one : ∀ i j c c', w.ceremony? i = some c → w.ceremony? j = some c' → c.live = true →
    c'.live = true → i = j
  here : ∀ i c, w.ceremony? i = some c → c.live = true → c.pc ≠ .starting → w.current = some i
  alone : w.sweep.isSome = true → ∀ i c, w.ceremony? i = some c → c.committed = false

theorem serial_initial : Serial initial := by
  have hnone (i : Nat) : initial.ceremony? i = none := by simp [ceremony?, initial]
  refine ⟨fun i c h => ?_, fun i j c c' h _ _ _ => ?_, fun i c h _ _ => ?_, fun _ i c h => ?_⟩
  all_goals exact absurd ((hnone i).symm.trans h) (by simp)

namespace Serial

open Ceremony (Settled)

variable {w : World}

/-- The memory is all that matters. -/
theorem of_memory (h : Serial w) {w' : World} (hceremonies : w'.ceremonies = w.ceremonies)
    (hcurrent : w'.current = w.current) (hsweep : w'.sweep.isSome = true → w.sweep.isSome = true) :
    Serial w' := by
  have heq (i : Nat) : w'.ceremony? i = w.ceremony? i := by
    rw [ceremony?, ceremony?, hceremonies]
  refine ⟨fun i c hc => ?_, fun i j c c' hc hc' => ?_, fun i c hc => ?_, fun hs i c hc => ?_⟩
  · exact h.sound i c (heq i ▸ hc)
  · exact h.one i j c c' (heq i ▸ hc) (heq j ▸ hc')
  · rw [hcurrent]; exact h.here i c (heq i ▸ hc)
  · exact h.alone (hsweep hs) i c (heq i ▸ hc)

variable {c c' : Ceremony}

/-- A step of one ceremony, which may make it the current one. -/
theorem put (h : Serial w) {i : Nat} {current : Option Nat}
    (hc : w.ceremony? i = some c) (hsound : c'.Sound) (hlive : c'.live = true → c.live = true)
    (hcommitted : w.sweep.isSome = true → c'.committed = false)
    (hcurrent : c'.live = true → c'.pc ≠ .starting → current = some i)
    (hothers : current = w.current ∨ c.live = true) :
    Serial { w.put i c' with current := current } := by
  refine ⟨fun j d hj => ?_, fun j k d e hj hk hd he => ?_, fun j d hj hd hstarting => ?_,
    fun hs j d hj => ?_⟩
  · obtain ⟨-, rfl⟩ | ⟨-, hj⟩ := ceremony?_put hj
    · exact hsound
    · exact h.sound j d hj
  · obtain ⟨rfl, rfl⟩ | ⟨-, hj'⟩ := ceremony?_put hj
    · obtain ⟨rfl, -⟩ | ⟨-, hk'⟩ := ceremony?_put hk
      · rfl
      · exact h.one _ k c e hc hk' (hlive hd) he
    · obtain ⟨rfl, rfl⟩ | ⟨-, hk'⟩ := ceremony?_put hk
      · exact h.one j _ d c hj' hc hd (hlive he)
      · exact h.one j k d e hj' hk' hd he
  · obtain ⟨rfl, rfl⟩ | ⟨hji, hj⟩ := ceremony?_put hj
    · exact hcurrent hd hstarting
    · rcases hothers with hsame | hc'
      · rw [show ({ w.put i c' with current := current } : World).current = current from rfl, hsame]
        exact h.here j d hj hd hstarting
      -- there is one ceremony under way, and it is this one
      · exact absurd (h.one j i d c hj hc hd hc') hji
  · obtain ⟨-, rfl⟩ | ⟨-, hj⟩ := ceremony?_put hj
    · exact hcommitted hs
    · exact h.alone hs j d hj

/-- Beside a sweep no ceremony comes to its approval. -/
theorem not_committed (h : Serial w) {i : Nat} (hc : w.ceremony? i = some c)
    (hsettled : Settled c c') (hs : w.sweep.isSome = true) : c'.committed = false := by
  have hnot := h.alone hs i c hc
  by_contra hcommitted
  have htrue := hsettled.committed (eq_true_of_ne_false hcommitted)
  exact absurd (hnot.symm.trans htrue) (by simp)

/-- A step of one ceremony that stays where it is in the service. -/
theorem put_settled (h : Serial w) {i : Nat} (hc : w.ceremony? i = some c)
    (hsound : c'.Sound) (hsettled : Settled c c')
    (hstarting : c'.pc ≠ .starting → c.pc ≠ .starting) : Serial (w.put i c') := by
  exact h.put hc hsound hsettled.live (h.not_committed hc hsettled)
    (fun hlive hpc => h.here i c hc (hsettled.live hlive) (hstarting hpc)) (.inl rfl)

/-- While nothing is adrift or starting, the guard of `startCeremony` lets nobody through
beside a ceremony that is under way. -/
theorem none_live (h : Serial w) (hmay : w.mayStart = true)
    (hgaps : ∀ c ∈ w.ceremonies, c.pc ≠ .starting ∧ c.adrift = false) :
    ∀ i c, w.ceremony? i = some c → c.live = false := by
  intro i c hc
  obtain ⟨hstarting, hadrift⟩ := hgaps c (mem_of_getElem? hc)
  by_contra hlive
  have hlive : c.live = true := eq_true_of_ne_false hlive
  have hactive : c.active = true := by
    by_contra hactive
    have hactive : c.active = false := eq_false_of_ne_true hactive
    have hunder : c.requested = true ∨ c.committed = true := by
      simpa [Ceremony.live, hstarting, hactive] using hlive
    have hover : c.requested = false ∧ c.committed = false := by
      simpa [Ceremony.adrift, hactive] using hadrift
    rcases hunder with hunder | hunder
    · exact absurd (hover.1.symm.trans hunder) (by simp)
    · exact absurd (hover.2.symm.trans hunder) (by simp)
  have hcurrent := h.here i c hc hlive hstarting
  have hguard : w.live? = some (i, c) := by simp [live?, hcurrent, hc]
  rw [mayStart, hguard] at hmay
  have hstate := (of_decide_eq_true hactive).2
  have hover := of_decide_eq_true hmay
  rcases hstate with hs | hs | hs
  all_goals rw [hs] at hover; exact absurd hover (by simp)

theorem step (h : Serial w) {e : Event} (hfollows : w.ApproverFollows e)
    (hserialized : Serialized w e) : Serial (w.step e) := by
  cases e with
  | start =>
    show Serial w.startCeremony
    rw [World.startCeremony]
    split
    · rename_i hmay
      have hnone := h.none_live hmay (hserialized hmay)
      -- what is there is not under way, and the new one is only starting
      have hcases (i : Nat) (c : Ceremony)
          (hc : (w.ceremonies ++ [Ceremony.fresh])[i]? = some c) :
          w.ceremony? i = some c ∨ i = w.ceremonies.length ∧ c = Ceremony.fresh := by
        by_cases hi : i < w.ceremonies.length
        · rw [getElem?_append_left hi] at hc
          exact .inl hc
        · rw [getElem?_append_right (by omega), getElem?_singleton] at hc
          split at hc
          · exact .inr ⟨by omega, (some.inj hc).symm⟩
          · exact absurd hc (by simp)
      have hlive (i : Nat) (c : Ceremony)
          (hc : (w.ceremonies ++ [Ceremony.fresh])[i]? = some c) (hlive : c.live = true) :
          i = w.ceremonies.length ∧ c = Ceremony.fresh := by
        obtain hc | hc := hcases i c hc
        · exact absurd ((hnone i c hc).symm.trans hlive) (by simp)
        · exact hc
      refine ⟨fun i c hc => ?_, fun i j c c' hc hc' hl hl' => ?_, fun i c hc hl hs => ?_,
        fun hs i c hc => ?_⟩
      · obtain hc | ⟨-, rfl⟩ := hcases i c hc
        · exact h.sound i c hc
        · exact Ceremony.sound_fresh
      · rw [(hlive i c hc hl).1, (hlive j c' hc' hl').1]
      · rw [(hlive i c hc hl).2] at hs
        exact absurd rfl hs
      · obtain hc | ⟨-, rfl⟩ := hcases i c hc
        · exact h.alone hs i c hc
        · rfl
    · exact h
  | approve newDeviceId =>
    obtain heq | ⟨i, c, hguard, haccepts, heq⟩ := World.approve_cases w newDeviceId
    · rw [World.step, heq]; exact h
    · rw [World.step, heq]
      have hc := (World.live?_eq hguard).2
      have hlive : c.live = true := by
        by_cases hpc : c.pc = .starting
        · exact Ceremony.live_of_starting hpc
        · exact Ceremony.live_of_active (decide_eq_true ⟨hpc, .inr (.inl haccepts.1)⟩)
      have hnone : w.sweep = none := by
        apply hserialized
        rw [World.accepts, hguard]
        exact decide_eq_true haccepts
      exact h.put hc ((h.sound i c hc).of_same rfl rfl rfl rfl)
        (fun _ => hlive) (fun hs => absurd hs (by simp [hnone]))
        (fun _ hpc => h.here i c hc hlive hpc) (.inl rfl)
  | cancel =>
    obtain heq | ⟨i, c, hguard, heq⟩ := World.cancel_cases w
    · rw [World.step, heq]; exact h
    · rw [World.step, heq]
      have hc := (World.live?_eq hguard).2
      refine h.put_settled hc (Ceremony.sound_cancelled (h.sound i c hc)) (Ceremony.settled_cancelled c) ?_
      intro hpc hstarting
      refine hpc ?_
      rw [Ceremony.cancelled]
      split
      · exact hstarting
      · exact hstarting
  | recoverNow clock =>
    show Serial (w.recoverNow clock)
    rw [World.recoverNow]
    split
    · exact h
    · rename_i hgo
      have hgo : w.sweep = none ∧ w.ceremonyIsActive = false := by
        simpa [isSome_iff_ne_none] using hgo
      have hidle := hserialized hgo.1 hgo.2
      exact ⟨h.sound, h.one, h.here, fun _ i c hc => hidle c (mem_of_getElem? hc)⟩
  | approver i m =>
    obtain heq | ⟨c, hc, hanswer, heq⟩ := World.approverMoves_cases w i m
    · rw [World.step, heq]; exact h
    · rw [World.step, heq]
      have hsound := h.sound i c hc
      have hput := h.put_settled hc (Ceremony.sound_moves hsound (hfollows c hc))
        (Ceremony.settled_moves hsound hanswer (hfollows c hc)) (Ceremony.moves_starting m)
      exact hput.of_memory rfl rfl id
  | ceremonySettles i reply =>
    obtain heq | ⟨c, call, hc, hcall, -, heq⟩ := World.ceremonySettles_cases w i reply
    · rw [World.step, heq]; exact h
    · rw [World.step, heq]
      have hw : Serial (w.perform call reply).1 :=
        h.of_memory (by simp) (by simp) (by simp)
      have hc' : (w.perform call reply).1.ceremony? i = some c := by
        rw [World.ceremony?, World.perform_ceremonies]
        exact hc
      exact hw.put_settled hc' ((h.sound i c hc).of_same rfl rfl rfl rfl)
        (Ceremony.settled_answered hcall) id
  | ceremonyGoes i =>
    obtain heq | ⟨c, a, hc, ha, heq⟩ := World.ceremonyGoes_cases w i
    · rw [World.step, heq]; exact h
    · rw [World.step, heq]
      have hsound := h.sound i c hc
      have hsettled := Ceremony.settled_resume hsound ha
      refine h.put hc (Ceremony.sound_resume hsound) hsettled.live (h.not_committed hc hsettled)
        (fun hlive _ => ?_) ?_
      · by_cases hstarts : c.pc = .starting ∧ a = .done
        · rw [if_pos hstarts]
        · rw [if_neg hstarts]
          refine h.here i c hc (hsettled.live hlive) fun hpc => ?_
          have hfailed := Ceremony.resume_startFails hpc fun ha => hstarts ⟨hpc, ha⟩
          rw [hfailed] at hlive
          exact absurd hlive (by simp [Ceremony.live, Ceremony.active, Ceremony.requested,
            Ceremony.committed, Ceremony.inApproval, Ceremony.finish])
      · by_cases hstarts : c.pc = .starting ∧ a = .done
        · exact .inr (Ceremony.live_of_starting hstarts.1)
        · exact .inl (if_neg hstarts)
  | sweepSettles reply =>
    obtain heq | ⟨s, hs, -, heq⟩ := World.sweepSettles_cases w reply
    · rw [World.step, heq]; exact h
    · rw [World.step, heq]
      exact h.of_memory (by simp) (by simp) (by simp [hs])
  | sweepGoes clock =>
    obtain heq | ⟨s, a, hs, -, heq⟩ := World.sweepGoes_cases w clock
    · rw [World.step, heq]; exact h
    · rw [World.step, heq]
      exact h.of_memory rfl rfl (by simp [hs])
  | crash =>
    have hnone (i : Nat) : (w.step .crash).ceremony? i = none := by
      simp [World.ceremony?, World.step]
    refine ⟨fun i c h => ?_, fun i j c c' h _ _ _ => ?_, fun i c h _ _ => ?_, fun _ i c h => ?_⟩
    all_goals exact absurd ((hnone i).symm.trans h) (by simp)
  | homeAdds deviceId certId => exact h.of_memory rfl rfl id
  | homeRevokes certId => exact h.of_memory rfl rfl id

end Serial

/-- In every run whose calls are serialized there is one ceremony at a time, and no sweep
beside an approval. -/
theorem exclusive (es : List Event)
    (hruns : Runs.Meets step (fun w e => w.ApproverFollows e ∧ Serialized w e)
      initial es) :
    AtMostOne (run step initial es) ∧
      NoOverlap (run step initial es) := by
  have hserial : Serial (run step initial es) :=
    invariant step (I := Serial) (fun _ _ h hok => h.step hok.1 hok.2) es
      initial serial_initial hruns
  refine ⟨fun i j c c' hc hc' hbusy hbusy' => ?_, fun hs c hc => ?_⟩
  · exact hserial.one i j c c' hc hc' (Ceremony.live_of_busy hbusy) (Ceremony.live_of_busy hbusy')
  · obtain ⟨i, hi⟩ := getElem?_of_mem hc
    by_contra happroval
    have hcommitted := Ceremony.committed_of_inApproval (eq_true_of_ne_false happroval)
    exact absurd ((hserial.alone hs i c hi).symm.trans hcommitted) (by simp)

/-- A sweep that is asked for in the middle of an approval waits until it is over, and so
does a second ceremony. -/
theorem exclusive_deferred :
    let es := journals ++ [.recoverNow 10, .start]
    (run step initial es).sweep = none ∧
      (run step initial es).ceremonies.length = 1 ∧
      AtMostOne (run step initial es) ∧
      NoOverlap (run step initial es) :=
  ⟨by decide, by decide, exclusive _ (by decide)⟩

/-- Two calls of `startCeremony` before the first approver has started. -/
def startedTwice : List Event :=
  [.start, .start, .approver 0 .started, .approver 1 .started, .ceremonyGoes 0, .ceremonyGoes 1]

/-- A ceremony that is cancelled in its approval, and a sweep. -/
def cancelledSweep : List Event := journals ++ [.cancel, .recoverNow 10]

/-- Neither rule holds of every run: a second ceremony starts while the first one's approver
is starting, and a sweep begins while a cancelled ceremony's approval is in flight. -/
theorem not_exclusive :
    (¬ ∀ es : List Event, Runs.Meets step World.ApproverFollows initial es →
      AtMostOne (run step initial es)) ∧
    ¬ ∀ es : List Event, Runs.Meets step World.ApproverFollows initial es →
      NoOverlap (run step initial es) := by
  constructor
  · intro h
    have hone := h startedTwice (by decide)
    have hsame := hone 0 1 ⟨.codeIssued, "", false, false, .began, .waitForRequest, none⟩
      ⟨.codeIssued, "", false, false, .began, .waitForRequest, none⟩
      (by decide) (by decide) (by decide) (by decide)
    exact absurd hsame (by decide)
  · intro h
    have halone := h cancelledSweep (by decide)
    have hmem : (⟨.cancelled, "phone", false, true, .persisted "phone" "leaf", .approve, none⟩ :
        Ceremony) ∈ (run step initial cancelledSweep).ceremonies := by decide
    exact absurd (halone (by decide) _ hmem) (by decide)

end RezChat.Devices
