/-
A released leaf is not forgotten.

The journal row is what a leaf can be revoked by, so it may go only once the leaf is revoked
at the home, or once the ceremony is confirmed. The one other way to delete it is for a
registration that never took effect and whose response never left: the home denies the
binding, and the caller says `neverPublished`. The sweep says so of every row that it read as
`pending` or `expired`, and a row is `pending` until `markPublished`, which comes after the
publication was asked for.
-/
import RezChat.Devices.Ceremony

set_option autoImplicit false

namespace RezChat.Devices

open World Sweep OrdMap Option PendingCeremonyRecord Runs

/-! ## The law -/

/-- Where the journal of `w` holds the row of a leaf that was handed to `put`, and the leaf is
neither revoked nor its ceremony confirmed, `journal` holds the row of that leaf too. -/
def World.Remembers (w : World) (journal : OrdMap String PendingCeremonyRecord) : Prop :=
  ∀ deviceId r, w.journal.get? deviceId = some r → r.leaf ∈ w.issued →
    r.certId ∈ w.revoked ∨ r.state = .confirmed ∨
      ∃ r', journal.get? deviceId = some r' ∧ r'.certId = r.certId

/-- The record that a sweep is about to drop, or is dropping, as never published. -/
def Sweep.denied? (s : Sweep) : Option PendingCeremonyRecord :=
  match s.pc with
  | .submit r =>
    if s.answer = some .rejected ∧ (r.state = .pending ∨ r.state = .expired) then some r else none
  | .disprovenGet r => some r
  | .disprovenDelete r => some r
  | _ => none

/-- No leaf that was handed to `put` is dropped as never published. -/
def NeverPublished (w : World) : Prop :=
  ∀ s ∈ w.sweep, ∀ r ∈ s.denied?, r.leaf ∉ w.issued

/-- A step forgets no released leaf. -/
def ForgetsNone (w : World) (e : Event) : Prop :=
  w.Remembers (w.step e).journal ∧ NeverPublished (w.step e)

/-! ## When it holds -/

/-- The slot of a device is free, or holds the row of this certificate. -/
def World.Holds (w : World) (deviceId certId : String) : Prop :=
  ∀ e ∈ w.journal.get? deviceId, e.certId = certId

instance (w : World) (deviceId certId : String) : Decidable (w.Holds deviceId certId) :=
  inferInstanceAs (Decidable (∀ e ∈ w.journal.get? deviceId, e.certId = certId))

/-- A write of the ceremony's finds the slot as it was read: `createPending` free or
confirmed, a transition with the same registration. -/
def Ceremony.Undisturbed (w : World) (c : Ceremony) : Prop :=
  match c.pc with
  | .createSet r => ∀ e ∈ w.journal.get? r.deviceId, e.state = .confirmed
  | .markSet r => w.Holds r.deviceId r.certId
  | _ => True

instance (w : World) (c : Ceremony) : Decidable (c.Undisturbed w) := by
  unfold Ceremony.Undisturbed; split <;> infer_instance

/-- A write or a deletion of the sweep's finds the slot as it was read. -/
def Sweep.Undisturbed (w : World) (s : Sweep) : Prop :=
  match s.pc with
  | .markSet _ next => w.Holds next.deviceId next.certId
  | .afterRevokeDelete r => w.Holds r.deviceId r.certId
  | .disprovenDelete r => w.Holds r.deviceId r.certId
  | _ => True

instance (w : World) (s : Sweep) : Decidable (s.Undisturbed w) := by
  unfold Undisturbed; split <;> infer_instance

/-- The home denies no leaf that was handed to `put` and whose row the sweep read unmarked. -/
def Sweep.DeniesUnreleased (w : World) (s : Sweep) : Prop :=
  match s.pc with
  | .submit r => r.state = .pending ∨ r.state = .expired → r.leaf ∉ w.issued
  | _ => True

instance (w : World) (s : Sweep) : Decidable (s.DeniesUnreleased w) := by
  unfold DeniesUnreleased; split <;> infer_instance

/-- What a step must not do for the law to hold: write over another registration than the one
that was read, have the home deny a released leaf whose row is not marked `published`, or
publish a leaf that is being dropped. -/
def Orderly (w : World) : Event → Prop
  | .ceremonySettles i reply =>
    reply.takesEffect = true → ∀ c ∈ w.ceremony? i, c.Undisturbed w
  | .sweepSettles reply =>
    (reply.takesEffect = true → ∀ s ∈ w.sweep, s.Undisturbed w) ∧
      (reply = .rejected → ∀ s ∈ w.sweep, s.DeniesUnreleased w)
  | .approver i m =>
    ∀ c ∈ w.ceremony? i, ∀ s ∈ w.sweep, ∀ r ∈ s.denied?, r.leaf ∉ c.publishes m
  | _ => True

instance (w : World) : DecidablePred (Orderly w)
  | .ceremonySettles i reply =>
    inferInstanceAs (Decidable (reply.takesEffect = true → ∀ c ∈ w.ceremony? i, c.Undisturbed w))
  | .sweepSettles reply =>
    inferInstanceAs (Decidable ((reply.takesEffect = true → ∀ s ∈ w.sweep, s.Undisturbed w) ∧
      (reply = .rejected → ∀ s ∈ w.sweep, s.DeniesUnreleased w)))
  | .approver i m =>
    inferInstanceAs (Decidable
      (∀ c ∈ w.ceremony? i, ∀ s ∈ w.sweep, ∀ r ∈ s.denied?, r.leaf ∉ c.publishes m))
  | .start | .approve _ | .cancel | .recoverNow _ | .ceremonyGoes _ | .sweepGoes _ | .crash
  | .homeAdds _ _ | .homeRevokes _ => isTrue trivial

/-! ## The journal -/

section Journal

variable {w : World}

theorem remembers_self (w : World) : w.Remembers w.journal :=
  fun _ r hr _ => .inr (.inr ⟨r, hr, rfl⟩)

/-- Writing a row keeps every leaf, where it replaces no other registration than a confirmed
one. -/
theorem remembers_set {r : PendingCeremonyRecord}
    (h : ∀ e ∈ w.journal.get? r.deviceId, e.state = .confirmed ∨ e.certId = r.certId) :
    w.Remembers (w.journal.set r.deviceId r) := by
  intro deviceId e he _
  by_cases hd : deviceId = r.deviceId
  · subst hd
    rcases h e he with hconfirmed | hcert
    · exact .inr (.inl hconfirmed)
    · refine .inr (.inr ⟨r, ?_, hcert.symm⟩)
      rw [get?_set, if_pos rfl]
  · refine .inr (.inr ⟨e, ?_, rfl⟩)
    rw [get?_set_of_ne _ _ hd]
    exact he

/-- Deleting a row keeps every leaf, where it was revoked or never handed to `put`. -/
theorem remembers_delete {deviceId : String}
    (h : ∀ e ∈ w.journal.get? deviceId, e.leaf ∈ w.issued → e.certId ∈ w.revoked) :
    w.Remembers (w.journal.delete deviceId) := by
  intro d e he hissued
  by_cases hd : d = deviceId
  · subst hd
    exact .inl (h e he hissued)
  · refine .inr (.inr ⟨e, ?_, rfl⟩)
    rw [get?_delete_of_ne _ hd]
    exact he

/-- Rows are kept under the device they are about. -/
def Keyed (w : World) : Prop := ∀ deviceId r, w.journal.get? deviceId = some r → r.deviceId = deviceId

theorem keyed_effect (h : Keyed w) (call : Call) : Keyed (w.effect call) := by
  cases call with
  | set r =>
    intro deviceId e he
    rw [effect] at he
    dsimp only at he
    rw [get?_set] at he
    split at he
    · rename_i hd
      rw [← some.inj he, hd]
    · exact h deviceId e he
  | delete d =>
    intro deviceId e he
    rw [effect] at he
    dsimp only at he
    rw [get?_delete] at he
    split at he
    · exact absurd he (by simp)
    · exact h deviceId e he
  | _ => exact h

theorem keyed_perform (h : Keyed w) (call : Call) (reply : Reply) :
    Keyed (w.perform call reply).1 := by
  intro deviceId r hr
  obtain heq | ⟨-, heq⟩ := perform_journal w call reply
  · rw [heq] at hr
    exact h deviceId r hr
  · rw [heq] at hr
    exact keyed_effect h call deviceId r hr

end Journal

/-! ## The sweep -/

namespace Sweep

/-- What a sweep goes on to delete as revoked is revoked, and what it has been told of the
revoked set was true. -/
def Proven (revoked : List String) (s : Sweep) : Prop :=
  match s.pc with
  | .certIsRevoked _ => ∀ certIds, s.answer = some (.revoked certIds) → certIds ⊆ revoked
  | .proveRevoked _ => ∀ certIds, s.answer = some (.revoked certIds) → certIds ⊆ revoked
  | .afterRevokeGet r => r.certId ∈ revoked
  | .afterRevokeDelete r => r.certId ∈ revoked
  | _ => True

theorem Proven.mono {s : Sweep} {revoked revoked' : List String} (h : s.Proven revoked)
    (hsub : revoked ⊆ revoked') : s.Proven revoked' := by
  unfold Proven at h ⊢
  split at h
  · exact fun certIds ha => List.Subset.trans (h certIds ha) hsub
  · exact fun certIds ha => List.Subset.trans (h certIds ha) hsub
  · exact hsub h
  · exact hsub h
  · trivial

/-- A sweep that has just begun to await: it deletes nothing, or it was led to it. -/
def Led (s s' : Sweep) (a : Answer) : Prop :=
  s'.answer = none ∧
    match s'.pc with
    | .afterRevokeGet r =>
      ∃ certIds, a = .revoked certIds ∧ r.certId ∈ certIds ∧
        (s.pc = .certIsRevoked r ∨ s.pc = .proveRevoked r)
    | .afterRevokeDelete r => s.pc = .afterRevokeGet r
    | .disprovenGet r =>
      s.pc = .submit r ∧ a = .rejected ∧ (r.state = .pending ∨ r.state = .expired)
    | .disprovenDelete r => s.pc = .disprovenGet r
    | _ => True

variable {s s' : Sweep} {a : Answer}

theorem led_nextResumable (clock : Nat) (s₀ : Sweep) (a : Answer) :
    ∀ todo : List PendingCeremonyRecord, Led s₀ (nextResumable clock s todo) a
  | [] => ⟨rfl, trivial⟩
  | r :: todo => by
    rw [nextResumable]
    split
    · exact led_nextResumable clock s₀ a todo
    · exact ⟨rfl, trivial⟩

variable {s₀ : Sweep}

theorem led_nextCompensatable {todo : List PendingCeremonyRecord}
    (h : s.nextCompensatable todo = some s') : Led s₀ s' a := by
  cases todo with
  | nil => exact absurd h (by simp [nextCompensatable])
  | cons r todo =>
    have heq := (some.inj h).symm
    by_cases hr : r.state = .pending
    · rw [heq, if_pos hr]; exact ⟨rfl, trivial⟩
    · rw [heq, if_neg hr]; exact ⟨rfl, trivial⟩

variable {clock : Nat}

theorem led_readNext {pass : Pass} {out : List PendingCeremonyRecord}
    {keys : List String} (h : s.readNext clock pass out keys = some s') :
    Led s₀ s' a := by
  cases keys with
  | cons key rest => rw [← some.inj h]; exact ⟨rfl, trivial⟩
  | nil =>
    cases pass with
    | resume => rw [← some.inj h]; exact led_nextResumable clock s₀ a out
    | compensate => exact led_nextCompensatable h

variable {r : PendingCeremonyRecord}

theorem led_afterMark {target : PendingState}
    {ok : Bool} (h : s.afterMark clock r target ok = some s') : Led s₀ s' a := by
  rw [afterMark] at h
  split at h
  · rw [← some.inj h]
    exact led_nextResumable clock s₀ a s.todo
  · split at h
    · rw [← some.inj h]
      exact ⟨rfl, trivial⟩
    · exact led_nextCompensatable h

/-- How a sweep comes to delete a row. -/
theorem led_resume (h : s.resume clock a = some s') : Led s s' a := by
  -- the next `await`, whatever is awaited
  have await {x : SweepAt} (hx : some (s.await x) = some s') (hled : Led s (s.await x) a) :
      Led s s' a := some.inj hx ▸ hled
  unfold resume at h
  split at h
  · exact led_readNext h
  · exact absurd h (by simp)
  · exact led_readNext h
  · exact led_readNext h
  · exact absurd h (by simp)
  · exact await h ⟨rfl, trivial⟩
  · exact some.inj h ▸ led_nextResumable clock s _ s.todo
  · split at h
    · exact await h ⟨rfl, trivial⟩
    · exact led_afterMark h
  · exact led_afterMark h
  · exact led_afterMark h
  · exact led_afterMark h
  · rename_i r certIds hpc
    by_cases hmem : r.certId ∈ certIds
    · rw [if_pos hmem] at h
      exact await h ⟨rfl, certIds, rfl, hmem, .inl hpc⟩
    · rw [if_neg hmem] at h
      exact await h ⟨rfl, trivial⟩
  · exact led_nextCompensatable h
  · exact await h ⟨rfl, trivial⟩
  · rename_i r hpc
    split at h
    · rename_i hstate
      exact await h ⟨rfl, hpc, rfl, hstate⟩
    · exact led_nextCompensatable h
  · exact led_nextCompensatable h
  · rename_i r certIds hpc
    split at h
    · rename_i hmem
      exact await h ⟨rfl, certIds, rfl, hmem, .inr hpc⟩
    · exact led_nextCompensatable h
  · exact led_nextCompensatable h
  · rename_i r e hpc
    split at h
    · exact await h ⟨rfl, hpc⟩
    · exact led_nextCompensatable h
  · exact led_nextCompensatable h
  · rename_i r e hpc
    split at h
    · exact await h ⟨rfl, hpc⟩
    · exact led_nextCompensatable h
  · exact led_nextCompensatable h
  · exact led_nextCompensatable h
  · exact led_nextCompensatable h

theorem proven_resume {revoked : List String} (h : s.Proven revoked)
    (ha : s.answer = some a) (hs' : s.resume clock a = some s') : s'.Proven revoked := by
  obtain ⟨hnone, hled⟩ := led_resume hs'
  unfold Proven at h ⊢
  split
  · exact fun _ hc => absurd (hnone.symm.trans hc) (by simp)
  · exact fun _ hc => absurd (hnone.symm.trans hc) (by simp)
  · rename_i r hpc
    rw [hpc] at hled
    obtain ⟨certIds, rfl, hmem, hasked | hproved⟩ := hled
    · rw [hasked] at h; exact h certIds ha hmem
    · rw [hproved] at h; exact h certIds ha hmem
  · rename_i r hpc
    rw [hpc] at hled
    rw [hled] at h
    exact h
  · trivial

/-- A sweep goes on to drop only what it was dropping or what the home has just denied. -/
theorem denied_resume (ha : s.answer = some a) (hs' : s.resume clock a = some s')
    (hr : s'.denied? = some r) : s.denied? = some r := by
  obtain ⟨hnone, hled⟩ := led_resume hs'
  unfold denied? at hr
  split at hr
  · rw [if_neg (fun h => absurd (hnone.symm.trans h.1) (by simp))] at hr
    exact absurd hr (by simp)
  · rename_i r' hpc
    rw [hpc] at hled
    obtain ⟨hsubmit, rfl, hstate⟩ := hled
    rw [← some.inj hr, denied?, hsubmit]
    exact if_pos ⟨ha, hstate⟩
  · rename_i r' hpc
    rw [hpc] at hled
    rw [← some.inj hr, denied?, hled]
  · exact absurd hr (by simp)

/-- A sweep that has just asked for a publication drops nothing. -/
theorem publishes_of_denied (hr : s.denied? = some r) :
    publishes (some s) = [] := by
  rw [publishes]
  split
  · rename_i r' hpc
    rw [denied?, hpc] at hr
    exact absurd hr (by simp)
  · rfl

theorem proven_settles {w : World} {reply : Reply} (h : s.Proven w.revoked) :
    Proven (w.perform s.call? reply).1.revoked
      { s with answer := some (w.perform s.call? reply).2 } := by
  have hsub := perform_revoked w s.call? reply
  unfold Proven at h ⊢
  dsimp only
  split at h
  · rename_i r hpc
    intro certIds ha
    have hcall : s.call? = .getAuthorityState := by rw [call?, hpc]
    rw [hcall] at ha hsub ⊢
    rw [← perform_revokedCertIds (some.inj ha)]
    exact hsub
  · rename_i r hpc
    intro certIds ha
    have hcall : s.call? = .getAuthorityState := by rw [call?, hpc]
    rw [hcall] at ha hsub ⊢
    rw [← perform_revokedCertIds (some.inj ha)]
    exact hsub
  · exact hsub h
  · exact hsub h
  · trivial

/-- What a sweep is told of makes it drop only what the home denied. -/
theorem denied_settles {w : World} {reply : Reply}
    (hr : denied? { s with answer := some (w.perform s.call? reply).2 } = some r) :
    s.denied? = some r ∨
      reply = .rejected ∧ s.pc = .submit r ∧ (r.state = .pending ∨ r.state = .expired) := by
  unfold denied? at hr
  dsimp only at hr
  split at hr
  · rename_i r' hpc
    split at hr
    · rename_i hdenied
      rw [← some.inj hr]
      exact .inr ⟨perform_rejected s.call? (some.inj hdenied.1), hpc, hdenied.2⟩
    · exact absurd hr (by simp)
  · rename_i r' hpc
    exact .inl (by rw [denied?, hpc]; exact hr)
  · rename_i r' hpc
    exact .inl (by rw [denied?, hpc]; exact hr)
  · exact absurd hr (by simp)

end Sweep

/-! ## Runs -/

/-- What is known of the world while no step is disorderly. -/
structure Compensated (w : World) : Prop where
  keyed : Keyed w
  proven : ∀ s, w.sweep = some s → s.Proven w.revoked
  denied : NeverPublished w

theorem compensated_initial : Compensated initial :=
  ⟨fun _ _ h => absurd h (by simp [initial, get?, empty]),
    fun _ h => absurd h (by simp [initial]), fun _ h => absurd h (by simp [initial])⟩

namespace Compensated

variable {w : World}

/-- A write of the ceremony's replaces no registration but a confirmed one. -/
theorem remembers_ceremony {c : Ceremony} {call : Call} {reply : Reply}
    (hcall : c.call? = some call) (h : reply.takesEffect = true → c.Undisturbed w) :
    w.Remembers (w.perform call reply).1.journal := by
  obtain heq | ⟨heffect, heq⟩ := perform_journal w call reply
  · rw [heq]
    exact remembers_self w
  · rw [heq]
    have hundisturbed := h heffect
    unfold Ceremony.Undisturbed at hundisturbed
    unfold Ceremony.call? at hcall
    split at hcall
    · rw [← some.inj hcall]; exact remembers_self w
    · rename_i r hpc
      rw [hpc] at hundisturbed
      rw [← some.inj hcall]
      exact remembers_set fun e he => .inl (hundisturbed e he)
    · rw [← some.inj hcall]; exact remembers_self w
    · rw [← some.inj hcall]; exact remembers_self w
    · rw [← some.inj hcall]; exact remembers_self w
    · rename_i r hpc
      rw [hpc] at hundisturbed
      rw [← some.inj hcall]
      exact remembers_set fun e he => .inr (hundisturbed e he)
    · exact absurd hcall (by simp)

/-- A sweep deletes the row of a leaf that is revoked, or that was never handed to `put`. -/
theorem remembers_sweep (h : Compensated w) {s : Sweep} (hs : w.sweep = some s) {reply : Reply}
    (hundisturbed : reply.takesEffect = true → s.Undisturbed w) :
    w.Remembers (w.perform s.call? reply).1.journal := by
  obtain heq | ⟨heffect, heq⟩ := perform_journal w s.call? reply
  · rw [heq]
    exact remembers_self w
  · rw [heq]
    have hholds := hundisturbed heffect
    have hproven := h.proven s hs
    unfold Undisturbed at hholds
    unfold Proven at hproven
    cases hpc : s.pc with
    | markSet r next =>
      rw [hpc] at hholds
      rw [call?, hpc]
      exact remembers_set fun e he => .inr (hholds e he)
    | afterRevokeDelete r =>
      rw [hpc] at hholds hproven
      rw [call?, hpc]
      refine remembers_delete fun e he _ => ?_
      rw [hholds e he]
      exact hproven
    | disprovenDelete r =>
      rw [hpc] at hholds
      rw [call?, hpc]
      refine remembers_delete fun e he hissued => ?_
      have hdenied : r.leaf ∉ w.issued := h.denied s hs r (by rw [denied?, hpc]; rfl)
      have hleaf : e.leaf = r.leaf := by
        rw [leaf, leaf, h.keyed _ e he, hholds e he]
      exact absurd (hleaf ▸ hissued) hdenied
    | _ =>
      rw [call?, hpc]
      exact remembers_self w

theorem perform (h : Compensated w) (call : Call) (reply : Reply) :
    Keyed (w.perform call reply).1 ∧ NeverPublished (w.perform call reply).1 := by
  refine ⟨keyed_perform h.keyed call reply, fun s hs r hr => ?_⟩
  rw [perform_sweep] at hs
  rw [perform_issued]
  exact h.denied s hs r hr

/-- One step: nothing released is forgotten, and what is known stays known. -/
theorem step (h : Compensated w) {e : Event} (horderly : Orderly w e) :
    Compensated (w.step e) ∧ w.Remembers (w.step e).journal := by
  have same : Compensated w ∧ w.Remembers w.journal := ⟨h, remembers_self w⟩
  cases e with
  | start =>
    show Compensated w.startCeremony ∧ w.Remembers w.startCeremony.journal
    rw [startCeremony]
    split
    · exact ⟨⟨h.keyed, h.proven, h.denied⟩, remembers_self w⟩
    · exact same
  | approve newDeviceId =>
    obtain heq | ⟨i, c, -, -, heq⟩ := approve_cases w newDeviceId
    · rw [World.step, heq]; exact same
    · rw [World.step, heq]; exact ⟨⟨h.keyed, h.proven, h.denied⟩, remembers_self w⟩
  | cancel =>
    obtain heq | ⟨i, c, -, heq⟩ := cancel_cases w
    · rw [World.step, heq]; exact same
    · rw [World.step, heq]; exact ⟨⟨h.keyed, h.proven, h.denied⟩, remembers_self w⟩
  | recoverNow clock =>
    show Compensated (w.recoverNow clock) ∧ w.Remembers (w.recoverNow clock).journal
    rw [recoverNow]
    split
    · exact same
    · refine ⟨⟨h.keyed, fun s hs => ?_, fun s hs r hr => ?_⟩, remembers_self w⟩
      · rw [← some.inj hs]; trivial
      · rw [← some.inj hs] at hr; exact absurd hr (by simp [denied?, begin])
  | approver i m =>
    obtain heq | ⟨c, hc, -, heq⟩ := approverMoves_cases w i m
    · rw [World.step, heq]; exact same
    · rw [World.step, heq]
      refine ⟨⟨h.keyed, h.proven, fun s hs r hr hissued => ?_⟩, remembers_self w⟩
      rcases List.mem_append.mp hissued with hnew | hold
      · exact horderly c hc s hs r hr hnew
      · exact h.denied s hs r hr hold
  | ceremonySettles i reply =>
    obtain heq | ⟨c, call, hc, hcall, -, heq⟩ := ceremonySettles_cases w i reply
    · rw [World.step, heq]; exact same
    · rw [World.step, heq]
      obtain ⟨hkeyed, hdenied⟩ := h.perform call reply
      refine ⟨⟨hkeyed, fun s hs => ?_, hdenied⟩,
        remembers_ceremony hcall fun heffect => horderly heffect c hc⟩
      rw [put_sweep, perform_sweep] at hs
      exact (h.proven s hs).mono (perform_revoked w call reply)
  | ceremonyGoes i =>
    obtain heq | ⟨c, a, -, -, heq⟩ := ceremonyGoes_cases w i
    · rw [World.step, heq]; exact same
    · rw [World.step, heq]; exact ⟨⟨h.keyed, h.proven, h.denied⟩, remembers_self w⟩
  | sweepSettles reply =>
    obtain heq | ⟨s, hs, -, heq⟩ := sweepSettles_cases w reply
    · rw [World.step, heq]; exact same
    · rw [World.step, heq]
      refine ⟨⟨(h.perform s.call? reply).1, fun s' hs' => ?_, fun s' hs' r hr => ?_⟩,
        h.remembers_sweep hs fun heffect => horderly.1 heffect s hs⟩
      · rw [← some.inj hs']
        exact proven_settles (h.proven s hs)
      · rw [← some.inj hs'] at hr
        show r.leaf ∉ (w.perform s.call? reply).1.issued
        rw [perform_issued]
        obtain hold | ⟨hrejected, hpc, hstate⟩ := denied_settles hr
        · exact h.denied s hs r hold
        · have hdenies := horderly.2 hrejected s hs
          unfold DeniesUnreleased at hdenies
          rw [hpc] at hdenies
          exact hdenies hstate
  | sweepGoes clock =>
    obtain heq | ⟨s, a, hs, ha, heq⟩ := sweepGoes_cases w clock
    · rw [World.step, heq]; exact same
    · rw [World.step, heq]
      refine ⟨⟨h.keyed, fun s' hs' => proven_resume (h.proven s hs) ha hs',
        fun s' hs' r hr => ?_⟩, remembers_self w⟩
      have hs'' : s.resume clock a = some s' := hs'
      show r.leaf ∉ publishes (s.resume clock a) ++ w.issued
      rw [hs'', publishes_of_denied hr]
      exact h.denied s hs r (denied_resume ha hs'' hr)
  | crash =>
    exact ⟨⟨h.keyed, fun s hs => absurd hs (by simp [World.step]),
      fun s hs => absurd hs (by simp [World.step])⟩, remembers_self w⟩
  | homeAdds deviceId certId => exact ⟨⟨h.keyed, h.proven, h.denied⟩, remembers_self w⟩
  | homeRevokes certId =>
    exact ⟨⟨h.keyed, fun s hs => (h.proven s hs).mono (List.subset_cons_self _ _), h.denied⟩,
      remembers_self w⟩

end Compensated

/-- In every run whose steps are orderly no step forgets a released leaf: its row goes only
once the leaf is revoked or its ceremony confirmed, and it is never dropped as if it had not
been published. -/
theorem released_not_forgotten (es : List Event)
    (hruns : Runs.Meets step Orderly initial es) :
    Runs.Meets step ForgetsNone initial es :=
  meets_of_invariant step (I := Compensated) (fun _ _ h hok => (h.step hok).1)
    (fun _ _ h hok => ⟨(h.step hok).2, (h.step hok).1.denied⟩) es initial
    compensated_initial hruns

/-- The second pass of a sweep that finds one row, up to the answer to its revoke. -/
def compensates (clock : Nat) (answer : Reply) : List Event :=
  sweeps clock ++ [.sweepSettles .ok, .sweepGoes clock, .sweepSettles .ok, .sweepGoes clock,
    .sweepSettles .ok, .sweepGoes clock, .sweepSettles .ok, .sweepGoes clock,
    .sweepSettles .ok, .sweepGoes clock, .sweepSettles answer, .sweepGoes clock]

/-- The server dies after the publication. Past the deadline the leaf is revoked, the home
confirms that it is, and the row goes. -/
theorem released_not_forgotten_crash :
    let es := journals ++ [.approver 0 (.registerDevice "phone" "leaf"), .ceremonySettles 0 .ok,
      .ceremonyGoes 0, .approver 0 (.put "phone" "leaf"), .crash] ++ compensates 200 .ok ++
      [.sweepSettles .ok, .sweepGoes 200, .sweepSettles .ok, .sweepGoes 200, .sweepSettles .ok]
    (run step initial es).journal = empty ∧
      (run step initial es).revoked = ["leaf"] ∧
      Runs.Meets step ForgetsNone initial es :=
  ⟨by decide, by decide, released_not_forgotten _ (by decide)⟩

/-- A leaf that a sweep published, before it died ahead of `markPublished`, is dropped by a
later one as never published. -/
def droppedRun : List Event :=
  journals ++ [.crash] ++ sweeps 10 ++ [.crash] ++ compensates 200 .rejected ++
    [.sweepSettles .ok, .sweepGoes 200]

theorem released_forgotten :
    ¬ ∀ es : List Event, Runs.Meets step World.ApproverFollows initial es →
      Runs.Meets step ForgetsNone initial es := by
  intro h
  have hforgets : ForgetsNone (run step initial droppedRun) (.sweepSettles .ok) :=
    Runs.Meets.step_of_append step droppedRun
      (h (droppedRun ++ [.sweepSettles .ok]) (by decide))
  have hrow : (run step initial droppedRun).journal.get? "phone" =
      some ⟨"phone", "leaf", .expired, 100⟩ := by decide
  have hissued : (run step initial droppedRun).issued = [("phone", "leaf")] := by
    decide
  have hrevoked : (run step initial droppedRun).revoked = [] := by decide
  have hgone : ((run step initial droppedRun).step
      (.sweepSettles .ok)).journal.get? "phone" = none := by decide
  obtain hmem | hstate | ⟨r, hr, -⟩ := hforgets.1 "phone" _ hrow
    (by rw [hissued]; exact List.mem_singleton_self _)
  · rw [hrevoked] at hmem
    exact List.not_mem_nil hmem
  · exact absurd hstate (by decide)
  · rw [hgone] at hr
    exact absurd hr (by simp)

end RezChat.Devices
