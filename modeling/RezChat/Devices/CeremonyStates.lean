/-
The states a ceremony goes through.

A ceremony shows its code, a request, the response, and one of four ends. Its driver writes the
state after each `await`, and emits `deviceLink.updated` with it; `cancelCeremony` writes it too, and
leaves the driver running. So the driver writes once more after the cancellation, whatever it was
waiting for: the end is told twice, or is overwritten. A cancellation that the driver carries out
itself, because it is parked on the human's decision, is told once.

The list of states that `startCeremony` takes for the end of a ceremony has `done`, which no ceremony
ever shows, where `_ceremonyIsActive` has `confirmed` besides. The two agree as long as the ceremony
of the field is not confirmed; a confirmed one blocks every later link.
-/
import RezChat.Devices.Ceremony
import RezChat.Lib.Table

set_option autoImplicit false

namespace RezChat.Devices

open Ceremony World CeremonyState

namespace CeremonyState

/-- How far a state is. -/
def rank : CeremonyState → Nat
  | codeIssued => 0
  | pending => 1
  | responding => 2
  | confirmed => 3
  | failed => 3
  | expired => 3
  | cancelled => 3

def terminal (s : CeremonyState) : Bool := decide (s.rank = 3)

theorem rank_le (s : CeremonyState) : s.rank ≤ 3 := by cases s <;> decide

end CeremonyState

/-! ## What is emitted -/

/-- The state of the `deviceLink.updated` event that the ceremony emits as it goes on. -/
def Ceremony.announces (c : Ceremony) (answer : Answer) : Option CeremonyState :=
  match c.pc, answer with
  | .starting, .done => some .codeIssued
  | .waitForRequest, .request _ => some .pending
  | .waitForRequest, .cancelled => some .cancelled
  | .waitForRequest, _ => some .expired
  | .parked, .done => some .responding
  | .parked, _ => some .cancelled
  | .approve, .done => some .confirmed
  | .approve, _ => some .failed
  | _, _ => none

namespace World

/-- The events a step emits, with the ceremony each is about. -/
def emits (w : World) : Event → List (Nat × CeremonyState)
  | .cancel =>
    match w.live? with
    | some (i, c) =>
      if c.armed = true ∨ c.state = .confirmed ∨ c.state = .failed ∨ c.state = .expired then []
      else [(i, .cancelled)]
    | none => []
  | .ceremonyGoes i =>
    match w.ceremony? i with
    | some c =>
      match c.answer with
      | some answer => (c.announces answer).toList.map fun s => (i, s)
      | none => []
    | none => []
  | _ => []

/-! ## The laws -/

/-- The state of a ceremony moves forward, and a terminal state is the end. -/
def Forward (w : World) (e : Event) : Prop :=
  ∀ i c c', w.ceremony? i = some c → (w.step e).ceremony? i = some c' →
    c.state.rank ≤ c'.state.rank ∧
      (c.state.terminal = true → c'.state = c.state ∧ ∀ s, (i, s) ∉ w.emits e)

/-- `startCeremony` refuses with `LINK_IN_PROGRESS` exactly when a ceremony is active. -/
def RefusesExactly (w : World) : Prop := w.mayStart = false ↔ w.ceremonyIsActive = true

instance (w : World) : Decidable w.RefusesExactly :=
  inferInstanceAs (Decidable (w.mayStart = false ↔ w.ceremonyIsActive = true))

/-- A ceremony is cancelled while its driver is parked on the human's decision, or once it has
another end. -/
def CancelsInTime (w : World) : Event → Prop
  | .cancel => ∀ p ∈ w.live?, p.2.armed = true ∨ p.2.state = .confirmed ∨ p.2.state = .failed ∨
      p.2.state = .expired
  | _ => True

instance (w : World) (e : Event) : Decidable (w.CancelsInTime e) := by
  cases e <;> unfold CancelsInTime <;> infer_instance

end World

/-! ## The driver -/

namespace Ceremony

variable {c : Ceremony}

/-- The state is that of the place where the driver waits. -/
def Staged (c : Ceremony) : Prop :=
  match c.pc with
  | .starting => c.state = .codeIssued
  | .waitForRequest => c.state = .codeIssued
  | .parked => c.state = .pending
  | .ended => c.state.terminal = true
  | _ => c.state = .responding

/-- A driver that has come to a terminal state is over. -/
theorem Staged.ended (h : c.Staged) (hterminal : c.state.terminal = true) : c.pc = .ended := by
  rw [Staged] at h
  cases hpc : c.pc with
  | ended => rfl
  | _ => simp [hpc] at h; simp [h, terminal, rank] at hterminal

/-- Only the place and the state count. -/
theorem staged_congr {c' : Ceremony} (h : c.Staged) (hpc : c'.pc = c.pc)
    (hstate : c'.state = c.state) : c'.Staged := by
  rw [Staged, hpc, hstate]
  exact h

theorem staged_fresh : fresh.Staged := rfl

/-- The places of an approval show that a response is under way. -/
theorem staged_await (h : c.state = .responding) {a : CeremonyAt}
    (ha : a ≠ .starting ∧ a ≠ .waitForRequest ∧ a ≠ .parked ∧ a ≠ .ended) :
    (c.await a).Staged := by
  cases a with
  | starting => exact absurd rfl ha.1
  | waitForRequest => exact absurd rfl ha.2.1
  | parked => exact absurd rfl ha.2.2.1
  | ended => exact absurd rfl ha.2.2.2
  | _ => exact h

theorem state_moves (c : Ceremony) (m : Move) : (c.moves m).state = c.state := by
  unfold moves
  split <;> rfl

theorem staged_moves (h : c.Staged) (m : Move) : (c.moves m).Staged := by
  have hresponding : c.pc = .approve → c.state = .responding := fun hpc => by
    rw [Staged, hpc] at h
    exact h
  unfold moves
  split
  -- the five calls of an approval come first, then what only answers
  case h_6 hpc => exact staged_await (hresponding hpc) (by simp)
  case h_7 hpc => exact staged_await (hresponding hpc) (by simp)
  case h_8 hpc => exact staged_await (hresponding hpc) (by simp)
  case h_9 hpc => exact staged_await (hresponding hpc) (by simp)
  case h_10 hpc => exact staged_await (hresponding hpc) (by simp)
  all_goals exact staged_congr h rfl rfl

/-- What comes of going on: the state fits the place again, and it is no earlier one. -/
structure Advanced (c c' : Ceremony) : Prop where
  staged : c'.Staged
  rank : c.state.rank ≤ c'.state.rank

theorem advanced_finish (c : Ceremony) {s : CeremonyState} (hs : s.terminal = true) :
    Advanced c (c.finish s) := by
  refine ⟨hs, ?_⟩
  have hrank : s.rank = 3 := of_decide_eq_true hs
  show c.state.rank ≤ s.rank
  rw [hrank]
  exact c.state.rank_le

section

variable (h : c.state = .responding)
include h

theorem advanced_await {a : CeremonyAt}
    (ha : a ≠ .starting ∧ a ≠ .waitForRequest ∧ a ≠ .parked ∧ a ≠ .ended) :
    Advanced c (c.await a) :=
  ⟨staged_await h ha, Nat.le_refl _⟩

theorem advanced_toApprover (p : Progress) :
    Advanced c (c.toApprover p) :=
  ⟨h, Nat.le_refl _⟩

theorem advanced_createRead (fields : PendingCeremonyRecord)
    (existing : Option PendingCeremonyRecord) : Advanced c (c.createRead fields existing) := by
  cases existing with
  | none => exact advanced_await h (by simp)
  | some e =>
    rw [createRead]
    by_cases hconfirmed : e.state = .confirmed
    · rw [if_pos hconfirmed]
      exact advanced_await h (by simp)
    · rw [if_neg hconfirmed]
      exact advanced_toApprover h .gaveUp

theorem advanced_markRead (target : PendingState)
    (existing : Option PendingCeremonyRecord) : Advanced c (c.markRead target existing) := by
  cases existing with
  | none => exact advanced_await h (by simp)
  | some e =>
    rw [markRead]
    by_cases hallowed : isAllowedCeremonyTransition e.state target = true
    · rw [if_pos hallowed]
      exact advanced_await h (by simp)
    · rw [if_neg hallowed]
      exact advanced_await h (by simp)

end

/-- By the place where the driver waits: each of them knows the state, and what it writes comes
after that. -/
theorem Staged.resume (h : c.Staged) (answer : Answer) : Advanced c (c.resume answer) := by
  rw [Staged] at h
  unfold Ceremony.resume
  split
  · rename_i hpc
    rw [hpc] at h
    exact ⟨h, Nat.le_refl _⟩
  · exact advanced_finish c rfl
  · rename_i newDeviceId hpc
    rw [hpc] at h
    refine ⟨rfl, ?_⟩
    show c.state.rank ≤ pending.rank
    rw [h]
    decide
  · exact advanced_finish c rfl
  · exact advanced_finish c rfl
  · rename_i hpc
    rw [hpc] at h
    refine ⟨rfl, ?_⟩
    show c.state.rank ≤ responding.rank
    rw [h]
    decide
  · exact ⟨rfl, (advanced_finish c (s := .cancelled) rfl).rank⟩
  · exact advanced_finish c rfl
  · exact advanced_finish c rfl
  -- the calls of an approval: the state is `responding`, and stays so
  · rename_i hpc
    rw [hpc] at h
    exact advanced_createRead h _ _
  · rename_i hpc _
    rw [hpc] at h
    exact advanced_toApprover h _
  · rename_i hpc
    rw [hpc] at h
    exact advanced_toApprover h _
  · rename_i hpc _
    rw [hpc] at h
    exact advanced_toApprover h _
  · rename_i hpc
    rw [hpc] at h
    exact advanced_toApprover h _
  · rename_i hpc _
    rw [hpc] at h
    exact advanced_toApprover h _
  · rename_i hpc
    rw [hpc] at h
    exact advanced_toApprover h _
  · rename_i hpc _
    rw [hpc] at h
    exact advanced_toApprover h _
  · rename_i hpc
    rw [hpc] at h
    exact advanced_markRead h _ _
  · rename_i hpc _
    rw [hpc] at h
    exact advanced_await h (by simp)
  · rename_i hpc
    rw [hpc] at h
    exact advanced_await h (by simp)
  · rename_i hpc
    refine ⟨?_, Nat.le_refl _⟩
    rw [Staged]
    exact h

/-- A driver that is over writes and emits nothing any more. -/
theorem resume_of_ended (hpc : c.pc = .ended) (answer : Answer) : c.resume answer = c := by
  unfold resume
  split <;> simp_all

theorem announces_of_ended (hpc : c.pc = .ended) (answer : Answer) : c.announces answer = none := by
  unfold announces
  split <;> simp_all

/-- A cancellation in time leaves the state to the driver. -/
theorem state_cancelled (h : c.armed = true ∨ c.state = .confirmed ∨ c.state = .failed ∨
    c.state = .expired) : c.cancelled.state = c.state ∧ c.cancelled.pc = c.pc := by
  unfold cancelled
  by_cases harmed : c.armed = true
  · rw [if_pos harmed]
    exact ⟨rfl, rfl⟩
  · rw [if_neg harmed]
    exact ⟨if_pos (h.resolve_left harmed), rfl⟩

end Ceremony

/-! ## Every ceremony -/

namespace World

variable {w w' : World} {i : Nat} {c c' : Ceremony} {e : Event}

/-- Every ceremony shows the state that its driver has come to. -/
def AllStaged (w : World) : Prop := ∀ i c, w.ceremony? i = some c → c.Staged

theorem allStaged_initial : AllStaged initial := fun _ _ h => nomatch h

section

variable (h : w.AllStaged)
include h

/-- One ceremony goes from `c` to `c'`, and nothing is emitted about another. -/
theorem AllStaged.put (hc : w.ceremony? i = some c)
    (hput : (w.step e).ceremonies = (w.put i c').ceremonies) (hstaged : c'.Staged)
    (hrank : c.state.rank ≤ c'.state.rank)
    (hend : c.state.terminal = true → c'.state = c.state ∧ ∀ s, (i, s) ∉ w.emits e)
    (hothers : ∀ j s, (j, s) ∈ w.emits e → j = i) :
    (w.step e).AllStaged ∧ w.Forward e := by
  have hcases : ∀ j d, (w.step e).ceremony? j = some d →
      (j = i ∧ d = c') ∨ (j ≠ i ∧ w.ceremony? j = some d) := fun j d hd => by
    have hd' : (w.step e).ceremonies[j]? = some d := hd
    rw [hput] at hd'
    exact ceremony?_put hd'
  refine ⟨fun j d hd => ?_, fun j d d' hd hd' => ?_⟩
  · rcases hcases j d hd with ⟨_, hnew⟩ | ⟨_, hold⟩
    · exact hnew ▸ hstaged
    · exact h j d hold
  · rcases hcases j d' hd' with ⟨hji, hnew⟩ | ⟨hji, hold⟩
    · subst hji
      obtain rfl : c = d := Option.some_inj.1 (hc.symm.trans hd)
      subst hnew
      exact ⟨hrank, hend⟩
    · obtain rfl : d = d' := Option.some_inj.1 (hd.symm.trans hold)
      exact ⟨Nat.le_refl _, fun _ => ⟨rfl, fun s hs => hji (hothers j s hs)⟩⟩

/-- A step that leaves the ceremonies alone and emits nothing. -/
theorem AllStaged.same (hsame : (w.step e).ceremonies = w.ceremonies)
    (hemits : w.emits e = []) : (w.step e).AllStaged ∧ w.Forward e := by
  refine ⟨fun j d hd => ?_, fun j d d' hd hd' => ?_⟩
  · have hd' : (w.step e).ceremonies[j]? = some d := hd
    rw [hsame] at hd'
    exact h j d hd'
  · have hd'' : (w.step e).ceremonies[j]? = some d' := hd'
    rw [hsame] at hd''
    obtain rfl : d = d' := Option.some_inj.1 (hd.symm.trans hd'')
    refine ⟨Nat.le_refl _, fun _ => ⟨rfl, fun s hs => ?_⟩⟩
    rw [hemits] at hs
    cases hs

theorem AllStaged.cancel (hok : w.CancelsInTime .cancel) :
    (w.step .cancel).AllStaged ∧ w.Forward .cancel := by
  rcases cancel_cases w with hsame | ⟨i, c, hlive, hput⟩
  · cases hlive : w.live? with
    | none =>
      refine h.same (congrArg ceremonies hsame) ?_
      rw [emits, hlive]
    | some p =>
      obtain ⟨i, c⟩ := p
      have hin := hok (i, c) hlive
      refine h.same (congrArg ceremonies hsame) ?_
      rw [emits, hlive]
      exact if_pos hin
  · have hin := hok (i, c) hlive
    obtain ⟨hstate, hpc⟩ := state_cancelled hin
    have hemits : w.emits .cancel = [] := by
      rw [emits, hlive]
      exact if_pos hin
    have hc := (live?_eq hlive).2
    refine h.put hc (congrArg ceremonies hput) (staged_congr (h i c hc) hpc hstate)
      (Nat.le_of_eq (congrArg rank hstate.symm)) (fun _ => ⟨hstate, fun s hs => ?_⟩)
      (fun j s hs => ?_)
    · rw [hemits] at hs
      cases hs
    · rw [hemits] at hs
      cases hs

theorem AllStaged.approve (newDeviceId : String) :
    (w.step (.approve newDeviceId)).AllStaged ∧ w.Forward (.approve newDeviceId) := by
  rcases approve_cases w newDeviceId with hsame | ⟨i, c, hlive, _, hput⟩
  · exact h.same (congrArg ceremonies hsame) rfl
  · have hc := (live?_eq hlive).2
    exact h.put hc (congrArg ceremonies hput) (staged_congr (h i c hc) rfl rfl)
      (Nat.le_refl _) (fun _ => ⟨rfl, fun s hs => nomatch hs⟩) (fun j s hs => nomatch hs)

theorem AllStaged.ceremonyGoes (i : Nat) :
    (w.step (.ceremonyGoes i)).AllStaged ∧ w.Forward (.ceremonyGoes i) := by
  cases hc : w.ceremony? i with
  | none =>
    refine h.same ?_ ?_
    · show (w.ceremonyGoes i).ceremonies = w.ceremonies
      rw [World.ceremonyGoes, hc]
    · rw [emits, hc]
  | some c =>
    cases ha : c.answer with
    | none =>
      refine h.same ?_ ?_
      · show (w.ceremonyGoes i).ceremonies = w.ceremonies
        rw [World.ceremonyGoes, hc]
        simp only [ha]
      · rw [emits, hc]
        simp only [ha]
    | some a =>
      have hgoes : (w.ceremonyGoes i).ceremonies = (w.put i (c.resume a)).ceremonies := by
        rw [World.ceremonyGoes, hc]
        simp only [ha]
        split <;> rfl
      obtain ⟨hstaged, hrank⟩ := (h i c hc).resume a
      have hemits : w.emits (.ceremonyGoes i) = (c.announces a).toList.map fun s => (i, s) := by
        rw [emits, hc]
        simp only [ha]
      refine h.put hc hgoes hstaged hrank (fun hterminal => ?_) (fun j s hs => ?_)
      · have hended := (h i c hc).ended hterminal
        rw [resume_of_ended hended, hemits, announces_of_ended hended]
        exact ⟨rfl, fun s hs => by cases hs⟩
      · rw [hemits] at hs
        obtain ⟨_, _, hpair⟩ := List.mem_map.1 hs
        exact (congrArg Prod.fst hpair).symm

theorem AllStaged.start : (w.step .start).AllStaged ∧ w.Forward .start := by
  by_cases hmay : w.mayStart = true
  · have hceremonies : (w.step .start).ceremonies = w.ceremonies ++ [fresh] := by
      show w.startCeremony.ceremonies = _
      rw [startCeremony, if_pos hmay]
    have hcases : ∀ j d, (w.step .start).ceremony? j = some d →
        (j = w.ceremonies.length ∧ d = fresh) ∨
          (j < w.ceremonies.length ∧ w.ceremony? j = some d) := fun j d hd => by
      have hd' : (w.step .start).ceremonies[j]? = some d := hd
      rw [hceremonies] at hd'
      exact Table.getElem_append hd'
    refine ⟨fun j d hd => ?_, fun j d d' hd hd' => ?_⟩
    · rcases hcases j d hd with ⟨_, hnew⟩ | ⟨_, hold⟩
      · exact hnew ▸ staged_fresh
      · exact h j d hold
    · have hlt : j < w.ceremonies.length := (List.getElem?_eq_some_iff.1 hd).1
      rcases hcases j d' hd' with ⟨hlen, _⟩ | ⟨_, hold⟩
      · omega
      · obtain rfl : d = d' := Option.some_inj.1 (hd.symm.trans hold)
        exact ⟨Nat.le_refl _, fun _ => ⟨rfl, fun s hs => nomatch hs⟩⟩
  · refine h.same ?_ rfl
    show w.startCeremony.ceremonies = w.ceremonies
    rw [startCeremony, if_neg hmay]

theorem AllStaged.approver (i : Nat) (m : Move) :
    (w.step (.approver i m)).AllStaged ∧ w.Forward (.approver i m) := by
  rcases approverMoves_cases w i m with hsame | ⟨c, hc, _, hmoves⟩
  · exact h.same (congrArg ceremonies hsame) rfl
  · have hput : (w.step (.approver i m)).ceremonies = (w.put i (c.moves m)).ceremonies := by
      show (w.approverMoves i m).ceremonies = _
      rw [hmoves]
    have hstate := c.state_moves m
    exact h.put hc hput (staged_moves (h i c hc) m)
      (Nat.le_of_eq (congrArg rank hstate.symm))
      (fun _ => ⟨hstate, fun s hs => nomatch hs⟩) (fun j s hs => nomatch hs)

theorem AllStaged.ceremonySettles (i : Nat) (reply : Reply) :
    (w.step (.ceremonySettles i reply)).AllStaged ∧ w.Forward (.ceremonySettles i reply) := by
  rcases ceremonySettles_cases w i reply with hsame | ⟨c, call, hc, _, _, hsettles⟩
  · exact h.same (congrArg ceremonies hsame) rfl
  · have hput : (w.step (.ceremonySettles i reply)).ceremonies =
        (w.put i { c with answer := some (w.perform call reply).2 }).ceremonies := by
      show (w.ceremonySettles i reply).ceremonies = _
      rw [hsettles, World.put, World.put, perform_ceremonies]
    exact h.put hc hput (staged_congr (h i c hc) rfl rfl) (Nat.le_refl _)
      (fun _ => ⟨rfl, fun s hs => nomatch hs⟩) (fun j s hs => nomatch hs)

/-- Every step of a server whose ceremonies are cancelled in time moves each of them forward. -/
theorem AllStaged.step (hok : w.CancelsInTime e) :
    (w.step e).AllStaged ∧ w.Forward e := by
  cases e with
  | start => exact h.start
  | approve newDeviceId => exact h.approve newDeviceId
  | cancel => exact h.cancel hok
  | recoverNow clock =>
    refine h.same ?_ rfl
    show (w.recoverNow clock).ceremonies = w.ceremonies
    rw [recoverNow]
    split <;> rfl
  | approver i m => exact h.approver i m
  | ceremonySettles i reply => exact h.ceremonySettles i reply
  | ceremonyGoes i => exact h.ceremonyGoes i
  | sweepSettles reply =>
    refine h.same ?_ rfl
    rcases sweepSettles_cases w reply with hsame | ⟨s, _, _, hsettles⟩
    · exact congrArg ceremonies hsame
    · show (w.sweepSettles reply).ceremonies = w.ceremonies
      rw [hsettles, perform_ceremonies]
  | sweepGoes clock =>
    refine h.same ?_ rfl
    rcases sweepGoes_cases w clock with hsame | ⟨s, a, _, _, hgoes⟩
    · exact congrArg ceremonies hsame
    · show (w.sweepGoes clock).ceremonies = w.ceremonies
      rw [hgoes]
  | crash => exact ⟨fun j d hd => (nomatch hd), fun j d d' _ hd' => (nomatch hd')⟩
  | homeAdds deviceId certId => exact h.same rfl rfl
  | homeRevokes certId => exact h.same rfl rfl

end

/-- The guard of `startCeremony` and `_ceremonyIsActive` differ about a confirmed ceremony alone. -/
theorem refusesExactly_iff (w : World) :
    w.RefusesExactly ↔ ∀ i c, w.live? = some (i, c) → c.state ≠ .confirmed := by
  rw [RefusesExactly, mayStart, ceremonyIsActive]
  cases hlive : w.live? with
  | none => simp
  | some p =>
    obtain ⟨i, c⟩ := p
    cases hstate : c.state <;> simp [hstate]

/-- **A ceremony moves forward to one end**, in every run in which a ceremony is cancelled only
while its driver is parked on the human's decision, or once it has another end. And in every state
`startCeremony` refuses exactly when a ceremony is active, if and only if the ceremony of the field
is not confirmed. -/
theorem run_forward (es : List Event) (h : Runs.Meets step CancelsInTime initial es) :
    Runs.Meets step Forward initial es ∧
      ∀ n, (Runs.run step initial (es.take n)).RefusesExactly ↔
        ∀ i c, (Runs.run step initial (es.take n)).live? = some (i, c) → c.state ≠ .confirmed :=
  ⟨Runs.meets_of_invariant step (fun _ _ hs he => (hs.step he).1) (fun _ _ hs he => (hs.step he).2)
    es initial allStaged_initial h, fun _ => refusesExactly_iff _⟩

/-- A link that is confirmed. -/
def confirms : List Event :=
  journals ++ [.approver 0 (.registerDevice "phone" "leaf"), .ceremonySettles 0 .ok, .ceremonyGoes 0,
    .approver 0 (.put "phone" "leaf"), .ceremonySettles 0 .ok, .ceremonyGoes 0, .approver 0 .returns,
    .ceremonyGoes 0]

theorem run_forward_confirms : Runs.Meets step Forward initial confirms :=
  (run_forward confirms (by decide)).1

/-- A cancellation comes while the response is under way: the end that was told is overwritten by
another. And the confirmed ceremony of a linked device blocks the next link. -/
theorem cancelled_then_confirmed :
    (¬ ∀ es, Runs.Meets step Forward initial es) ∧
      ¬ ∀ es, (Runs.run step initial es).RefusesExactly := by
  refine ⟨fun h => ?_, fun h => ?_⟩
  · have hlate := h ([.start, .approver 0 .started, .ceremonyGoes 0,
      .approver 0 (.requested "phone"), .ceremonyGoes 0, .approve "phone", .ceremonyGoes 0,
      .approver 0 .returns, .cancel] ++ [.ceremonyGoes 0])
    obtain ⟨_, hend⟩ := Runs.Meets.step_of_append step _ hlate 0 _ _ rfl rfl
    exact absurd (hend rfl).1 (by decide)
  · exact absurd (h confirms) (by decide)

end World

end RezChat.Devices
