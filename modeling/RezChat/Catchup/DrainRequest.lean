/-
Coalesced drain requests (`services/InboxCatchupService.js`, `requestDrain`).

At most one drain loop runs at a time. A request that finds one running sets a
flag and returns, and the loop reads and clears the flag around each of its
passes:

    do { pending = false; await drainOnce(); } while (pending)

with `draining` reset in a `finally`. The interleavings are those of a
single-threaded program: a request can arrive whenever the loop awaits, and a
pass ends by returning or by throwing.

What a caller of `requestDrain` relies on is that a pass begun after its request
completes. A pass that throws leaves the loop without looking at the flag, and
`idle_served_iff` says exactly which runs lose a request to that.
-/
import RezChat.Lib.Runs
import Mathlib.Tactic.Tauto

set_option autoImplicit false

namespace RezChat.Catchup

open List Runs Nat

namespace DrainRequest

/-- What happened, with passes numbered in the order they began. A request is
`coalesced` when it found a drain loop running. -/
inductive Event where
  | requested (coalesced : Bool)
  | began (pass : Nat)
  | returned (pass : Nat)
  | threw (pass : Nat)

/-- The two flags of the service and the position of its loop: `rerun` tells a
later round of the loop from its first. The journal, newest entry first, and the
number of passes begun so far are only there to speak about runs. -/
structure State where
  draining : Bool
  pending : Bool
  rerun : Bool
  passes : Nat
  journal : List Event

def init : State :=
  { draining := false, pending := false, rerun := false, passes := 0, journal := [] }

/-- A caller requests a drain, or the running pass ends. -/
inductive Action where
  | request
  | passReturns
  | passThrows
  deriving DecidableEq

/-- One round of the loop: clear the flag and begin a pass. -/
def beginPass (rerun : Bool) (s : State) : State :=
  { s with
    pending := false
    rerun := rerun
    passes := s.passes + 1
    journal := .began s.passes :: s.journal }

/-- The pass that is running. -/
def State.current (s : State) : Nat := s.passes - 1

def State.noted (s : State) (e : Event) : State := { s with journal := e :: s.journal }

/-- `requestDrain`. -/
def requestDrain (s : State) : State :=
  if s.draining then { s.noted (.requested true) with pending := true }
  else beginPass false { s.noted (.requested false) with draining := true }

/-- `await this.#drainOnce()` returns, and the loop condition is read. -/
def passReturns (s : State) : State :=
  if s.draining then
    if s.pending then beginPass true (s.noted (.returned s.current))
    else { s.noted (.returned s.current) with draining := false }
  else s

/-- `await this.#drainOnce()` throws: only the `finally` runs. -/
def passThrows (s : State) : State :=
  if s.draining then { s.noted (.threw s.current) with draining := false } else s

def step (s : State) : Action → State
  | .request => requestDrain s
  | .passReturns => passReturns s
  | .passThrows => passThrows s

/-! ## What a request is owed -/

/-- Since a request was made, with `since` the journal after it, a pass has both
begun and returned. -/
def Completed (since : List Event) : Prop :=
  ∃ pass, Event.began pass ∈ since ∧ Event.returned pass ∈ since

/-- Every request made while a pass was running was followed by a complete pass
that began after it. -/
def Served (journal : List Event) : Prop :=
  ∀ since before, journal = since ++ .requested true :: before → Completed since

theorem Completed.cons {since : List Event} (h : Completed since) (e : Event) :
    Completed (e :: since) := by
  obtain ⟨pass, hb, hr⟩ := h
  exact ⟨pass, mem_cons_of_mem _ hb, mem_cons_of_mem _ hr⟩

/-- Splitting a longer journal at a request: the request is the new entry, or it
was there before. -/
theorem split_cons {e : Event} {journal since before : List Event}
    (h : e :: journal = since ++ .requested true :: before) :
    (e = .requested true ∧ since = []) ∨
      ∃ since', since = e :: since' ∧ journal = since' ++ .requested true :: before := by
  cases since with
  | nil =>
    rw [nil_append, List.cons.injEq] at h
    exact .inl ⟨h.1, rfl⟩
  | cons e' since' =>
    rw [cons_append, List.cons.injEq] at h
    exact .inr ⟨since', by rw [h.1], h.2⟩

/-! ## The numbering of passes -/

/-- Passes are numbered once each, the running one has not returned, and the
loop's flags are down when no loop runs a later round. -/
structure Numbered (s : State) : Prop where
  began_lt : ∀ pass, Event.began pass ∈ s.journal → pass < s.passes
  running : s.draining = true → 0 < s.passes
  returned_lt : ∀ pass, Event.returned pass ∈ s.journal →
    pass < s.passes ∧ (s.draining = true → pass < s.current)

theorem numbered_init : Numbered init :=
  ⟨by simp [init], by simp [init], by simp [init]⟩

theorem Numbered.step {s : State} (h : Numbered s) (a : Action) : Numbered (step s a) := by
  have hcur : s.draining = true → s.current + 1 = s.passes := fun hd => by
    have := h.running hd
    simp only [State.current]
    omega
  cases a with
  | request =>
    show Numbered (requestDrain s)
    unfold requestDrain
    split
    · refine ⟨fun pass hp => h.began_lt pass ?_, h.running, fun pass hp =>
        h.returned_lt pass ?_⟩
      · simpa [State.noted] using hp
      · simpa [State.noted] using hp
    · refine ⟨fun pass hp => ?_, fun _ => succ_pos _, fun pass hp => ?_⟩
      · simp only [beginPass, State.noted, mem_cons, Event.began.injEq, reduceCtorEq,
          false_or] at hp ⊢
        rcases hp with rfl | hp
        · exact lt_succ_self _
        · exact lt_succ_of_lt (h.began_lt pass hp)
      · simp only [beginPass, State.noted, State.current, mem_cons, reduceCtorEq,
          false_or, Nat.add_sub_cancel] at hp ⊢
        have := (h.returned_lt pass hp).1
        exact ⟨by omega, fun _ => this⟩
  | passReturns =>
    show Numbered (passReturns s)
    unfold passReturns
    split
    · rename_i hd
      have hc := hcur hd
      have hbegan : ∀ pass, Event.began pass ∈ s.journal → pass < s.passes := h.began_lt
      have hret : ∀ pass, pass = s.current ∨ Event.returned pass ∈ s.journal →
          pass < s.passes := by
        rintro pass (rfl | hp)
        · omega
        · exact (h.returned_lt pass hp).1
      split
      · refine ⟨fun pass hp => ?_, fun _ => succ_pos _, fun pass hp => ?_⟩
        · simp only [beginPass, State.noted, mem_cons, Event.began.injEq, reduceCtorEq,
            false_or] at hp ⊢
          rcases hp with rfl | hp
          · exact lt_succ_self _
          · exact lt_succ_of_lt (hbegan pass hp)
        · simp only [beginPass, State.noted, mem_cons, Event.returned.injEq, reduceCtorEq,
            false_or] at hp
          have := hret pass hp
          exact ⟨lt_succ_of_lt this, fun _ => this⟩
      · refine ⟨fun pass hp => ?_, fun hf => absurd hf Bool.false_ne_true, fun pass hp =>
          ⟨?_, fun hf => absurd hf Bool.false_ne_true⟩⟩
        · simp only [State.noted, mem_cons, reduceCtorEq, false_or] at hp
          exact hbegan pass hp
        · simp only [State.noted, mem_cons, Event.returned.injEq] at hp
          exact hret pass hp
    · exact h
  | passThrows =>
    show Numbered (passThrows s)
    unfold passThrows
    split
    · refine ⟨fun pass hp => h.began_lt pass ?_, fun hf => absurd hf Bool.false_ne_true,
        fun pass hp => ⟨(h.returned_lt pass ?_).1, fun hf => absurd hf Bool.false_ne_true⟩⟩
      · simpa [State.noted] using hp
      · simpa [State.noted] using hp
    · exact h

/-! ## Runs that lose no request -/

/-- A pass may throw only if no request waits for it or behind it: none has come
in while it ran, and it was not begun for one. -/
def SafeThrow (s : State) (a : Action) : Prop :=
  a = .passThrows → s.draining = true → s.pending = false ∧ s.rerun = false

instance (s : State) (a : Action) : Decidable (SafeThrow s a) :=
  inferInstanceAs (Decidable (_ → _ → _ ∧ _))

/-- Every coalesced request is served, or a later pass is owed to it: the flag is
up, or the running pass was begun after it. -/
def Owed (s : State) : Prop :=
  ∀ since before, s.journal = since ++ .requested true :: before →
    Completed since ∨ (s.draining = true ∧
      (s.pending = true ∨ (s.rerun = true ∧ Event.began s.current ∈ since)))

theorem owed_init : Owed init := by
  intro since before h
  exact absurd h (by simp [init])

theorem Owed.served {s : State} (h : Owed s) (hd : s.draining = false) : Served s.journal := by
  intro since before hj
  rcases h since before hj with hc | ⟨hd', -⟩
  · exact hc
  · rw [hd] at hd'
    exact absurd hd' Bool.false_ne_true

theorem Owed.step {s : State} (h : Owed s) (a : Action) (ha : SafeThrow s a) :
    Owed (step s a) := by
  cases a with
  | request =>
    show Owed (requestDrain s)
    unfold requestDrain
    split
    · rename_i hd
      exact fun _ _ _ => .inr ⟨hd, .inl rfl⟩
    · rename_i hd
      intro since before hj
      -- the loop begins: neither new entry is a coalesced request
      rcases split_cons hj with ⟨hf, -⟩ | ⟨since₁, rfl, hj₁⟩
      · exact absurd hf (by simp)
      · rcases split_cons hj₁ with ⟨hf, -⟩ | ⟨since₂, rfl, hj₂⟩
        · exact absurd hf (by simp)
        · rcases h since₂ before hj₂ with hc | ⟨hd', -⟩
          · exact .inl ((hc.cons _).cons _)
          · exact absurd hd' hd
  | passReturns =>
    show Owed (passReturns s)
    unfold passReturns
    split
    · rename_i hd
      split
      · intro since before hj
        rcases split_cons hj with ⟨hf, -⟩ | ⟨since₁, rfl, hj₁⟩
        · exact absurd hf (by simp)
        · -- the pass begun now is owed to every request made so far
          exact .inr ⟨hd, .inr ⟨rfl, mem_cons_self⟩⟩
      · rename_i hp
        intro since before hj
        rcases split_cons hj with ⟨hf, -⟩ | ⟨since₁, rfl, hj₁⟩
        · exact absurd hf (by simp)
        · rcases h since₁ before hj₁ with hc | ⟨-, hpend | ⟨-, hbegan⟩⟩
          · exact .inl (hc.cons _)
          · exact absurd hpend hp
          · exact .inl ⟨s.current, mem_cons_of_mem _ hbegan, mem_cons_self⟩
    · exact h
  | passThrows =>
    show Owed (passThrows s)
    unfold passThrows
    split
    · rename_i hd
      obtain ⟨hpend, hrerun⟩ := ha rfl hd
      intro since before hj
      rcases split_cons hj with ⟨hf, -⟩ | ⟨since₁, rfl, hj₁⟩
      · exact absurd hf (by simp)
      · rcases h since₁ before hj₁ with hc | ⟨-, hp | ⟨hr, -⟩⟩
        · exact .inl (hc.cons _)
        · rw [hpend] at hp
          exact absurd hp Bool.false_ne_true
        · rw [hrerun] at hr
          exact absurd hr Bool.false_ne_true
    · exact h

/-! ## Runs that lose one -/

/-- The flag and the round of the loop mean what they say: behind either there is
a request no pass begun since has completed for. -/
structure Waiting (s : State) : Prop where
  pending : s.draining = true → s.pending = true →
    ∃ since before, s.journal = since ++ .requested true :: before ∧
      ∀ pass, Event.began pass ∉ since
  rerun : s.draining = true → s.rerun = true →
    ∃ since before, s.journal = since ++ .requested true :: before ∧
      ∀ pass, Event.began pass ∈ since → pass = s.current

theorem waiting_init : Waiting init :=
  ⟨fun hd => absurd hd (by simp [init]), fun hd => absurd hd (by simp [init])⟩

theorem Waiting.step {s : State} (h : Waiting s) (a : Action) : Waiting (step s a) := by
  cases a with
  | request =>
    show Waiting (requestDrain s)
    unfold requestDrain
    split
    · refine ⟨fun _ _ => ⟨[], s.journal, rfl, fun _ hp => by cases hp⟩, fun hd hr => ?_⟩
      obtain ⟨since, before, hj, hb⟩ := h.rerun hd hr
      refine ⟨.requested true :: since, before, ?_, fun pass hp => hb pass ?_⟩
      · simp only [State.noted, hj, cons_append]
      · simpa using hp
    · exact ⟨fun _ hp => absurd hp Bool.false_ne_true, fun _ hr => absurd hr Bool.false_ne_true⟩
  | passReturns =>
    show Waiting (passReturns s)
    unfold passReturns
    split
    · rename_i hd
      split
      · rename_i hp
        refine ⟨fun _ hf => absurd hf Bool.false_ne_true, fun _ _ => ?_⟩
        obtain ⟨since, before, hj, hb⟩ := h.pending hd hp
        refine ⟨.began s.passes :: .returned s.current :: since, before, ?_, fun pass hm => ?_⟩
        · simp only [beginPass, State.noted, hj, cons_append]
        · simp only [mem_cons, Event.began.injEq, reduceCtorEq, false_or] at hm
          rcases hm with rfl | hm
          · rfl
          · exact absurd hm (hb pass)
      · exact ⟨fun hf => absurd hf Bool.false_ne_true, fun hf => absurd hf Bool.false_ne_true⟩
    · exact h
  | passThrows =>
    show Waiting (passThrows s)
    unfold passThrows
    split
    · exact ⟨fun hf => absurd hf Bool.false_ne_true, fun hf => absurd hf Bool.false_ne_true⟩
    · exact h

/-- A pass that throws with a request waiting leaves the service idle and the
request unserved. -/
theorem not_served_of_unsafe {s : State} (hw : Waiting s) (hn : Numbered s) {a : Action}
    (ha : ¬ SafeThrow s a) : (step s a).draining = false ∧ ¬ Served (step s a).journal := by
  simp only [SafeThrow, Classical.not_imp] at ha
  obtain ⟨rfl, hd, hflags⟩ := ha
  have hstep : step s .passThrows = { s.noted (.threw s.current) with draining := false } := by
    show passThrows s = _
    rw [passThrows, if_pos hd]
  rw [hstep]
  refine ⟨rfl, fun hs => ?_⟩
  have hsome : ∃ since before, s.journal = since ++ .requested true :: before ∧
      ∀ pass, Event.began pass ∈ since → pass = s.current := by
    by_cases hp : s.pending = true
    · obtain ⟨since, before, hj, hb⟩ := hw.pending hd hp
      exact ⟨since, before, hj, fun pass hm => absurd hm (hb pass)⟩
    · by_cases hr : s.rerun = true
      · exact hw.rerun hd hr
      · exact absurd ⟨Bool.eq_false_iff.2 hp, Bool.eq_false_iff.2 hr⟩ hflags
  obtain ⟨since, before, hj, hb⟩ := hsome
  obtain ⟨pass, hbegan, hret⟩ := hs (.threw s.current :: since) before
    (by simp only [State.noted, hj, cons_append])
  simp only [mem_cons, reduceCtorEq, false_or] at hbegan hret
  -- only the pass that threw began since, and it has not returned
  have hlt := (hn.returned_lt pass (by rw [hj]; exact mem_append_left _ hret)).2 hd
  rw [hb pass hbegan] at hlt
  exact Nat.lt_irrefl _ hlt

/-! ## The theorem -/

/-- **Coalesced requests.** In every idle state of a run, every request made
while a pass was running was followed by a complete pass begun after it — if and
only if no pass of the run throws with a request waiting, be it for the next
pass or for the one that throws. -/
theorem idle_served_iff (actions : List Action) :
    (∀ n, (run step init (actions.take n)).draining = false →
        Served (run step init (actions.take n)).journal) ↔
      Runs.Meets step SafeThrow init actions := by
  constructor
  · -- follow the run; the first unsafe throw would leave an unserved request
    have key : ∀ (actions : List Action) (s : State), Waiting s → Numbered s →
        (∀ n, (run step s (actions.take n)).draining = false →
          Served (run step s (actions.take n)).journal) →
        Runs.Meets step SafeThrow s actions := by
      intro actions
      induction actions with
      | nil => exact fun _ _ _ _ => trivial
      | cons a actions ih =>
        intro s hw hn h
        refine ⟨?_, ih (step s a) (hw.step a) (hn.step a) fun n => h (n + 1)⟩
        by_contra ha
        obtain ⟨hidle, hlost⟩ := not_served_of_unsafe hw hn ha
        have h₁ := h 1
        rw [take_succ_cons, take_zero, run_cons, run_nil] at h₁
        exact hlost (h₁ hidle)
    exact key actions init waiting_init numbered_init
  · intro hm n hidle
    have howed : Owed (run step init (actions.take n)) :=
      throughout step (fun is => invariant step (fun s a h ha => h.step a ha) is init
        owed_init) actions hm n
    exact howed.served hidle

/-- **A failing pass discards the request made while it ran**: the service is
idle, and no pass has begun since the request. -/
theorem request_lost : ¬ ∀ n,
    (run step init ([.request, .request, .passThrows].take n)).draining = false →
      Served (run step init ([.request, .request, .passThrows].take n)).journal := by
  intro h
  obtain ⟨pass, hbegan, -⟩ := h 3 rfl [.threw 0] [.began 0, .requested false] rfl
  simp at hbegan

end DrainRequest

end RezChat.Catchup
