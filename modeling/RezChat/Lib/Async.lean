/-
Asynchronous procedures over a state, with failures and crashes at every
await.

A procedure runs straight-line code over a state, and stops now and then to
await an operation of the outside: a storage call, a network call. What becomes
of an awaited operation is not the procedure's to decide, so it is an input,
the `Fate` of the await. The operation may succeed; it may fail with or without
having taken effect; or the process may die while waiting. A run of a procedure
is therefore determined by its start state and the list of fates its awaits
meet, and a statement about every run quantifies over that list.

The second half of the file is the program logic: `Proc.wp` asks for three
postconditions, one for each way a run can end, and there is one rule for each
way a procedure is built. The crash postcondition is what a durability argument
is about: it has to hold wherever the procedure could have been interrupted.
-/
import Mathlib.Logic.Basic

set_option autoImplicit false

namespace RezChat

/-- What becomes of one awaited operation. -/
inductive Fate where
  /-- It takes effect and returns. -/
  | ok
  /-- It fails without taking effect. -/
  | throws
  /-- It takes effect, but its caller sees a failure. -/
  | throwsLate
  /-- The process dies before it takes effect. -/
  | dies

/-- How a run of a procedure ends. -/
inductive Outcome (α : Type) where
  | returned (a : α)
  | threw
  | died
  deriving DecidableEq

/-- The end of a run: its outcome, the state it leaves, and the fates it did
not use. -/
structure Ending (σ α : Type) where
  outcome : Outcome α
  state : σ
  fates : List Fate

/-- A procedure over states `σ` that returns an `α`. -/
def Proc (σ α : Type) : Type := List Fate → σ → Ending σ α

namespace Proc

variable {σ τ α β : Type}

/-- Return `a` without awaiting anything. -/
def ret (a : α) : Proc σ α := fun fates s => ⟨.returned a, s, fates⟩

/-- Run `p`, and go on with `k` if it returned. -/
def andThen (p : Proc σ α) (k : α → Proc σ β) : Proc σ β := fun fates s =>
  match p fates s with
  | ⟨.returned a, s', fates'⟩ => k a fates' s'
  | ⟨.threw, s', fates'⟩ => ⟨.threw, s', fates'⟩
  | ⟨.died, s', fates'⟩ => ⟨.died, s', fates'⟩

instance : Monad (Proc σ) where
  pure := ret
  bind := andThen

/-- Throw an exception. -/
def throw : Proc σ α := fun fates s => ⟨.threw, s, fates⟩

/-- Read the state. -/
def get : Proc σ σ := fun fates s => ⟨.returned s, s, fates⟩

/-- Change the state, synchronously. -/
def modify (f : σ → σ) : Proc σ Unit := fun fates s => ⟨.returned (), f s, fates⟩

/-- Await an operation whose effect and result are `f`. Its fate is the next
one of the list; a run that has used up its list meets no more failures. -/
def await (f : σ → α × σ) : Proc σ α := fun fates s =>
  match fates with
  | [] => ⟨.returned (f s).1, (f s).2, []⟩
  | .ok :: fates => ⟨.returned (f s).1, (f s).2, fates⟩
  | .throws :: fates => ⟨.threw, s, fates⟩
  | .throwsLate :: fates => ⟨.threw, (f s).2, fates⟩
  | .dies :: fates => ⟨.died, s, fates⟩

/-- Run `p`, and `h` if `p` threw. Nothing catches the death of the process. -/
def tryCatch (p : Proc σ α) (h : Proc σ α) : Proc σ α := fun fates s =>
  match p fates s with
  | ⟨.returned a, s', fates'⟩ => ⟨.returned a, s', fates'⟩
  | ⟨.threw, s', fates'⟩ => h fates' s'
  | ⟨.died, s', fates'⟩ => ⟨.died, s', fates'⟩

/-- Run a procedure over one component of the state. -/
def zoom (view : σ → τ) (put : τ → σ → σ) (p : Proc τ α) : Proc σ α := fun fates s =>
  match p fates (view s) with
  | ⟨o, t, fates'⟩ => ⟨o, put t s, fates'⟩

/-! ## The program logic -/

/-- A run that returned satisfies `R`, one that threw `E`, and one the process
did not survive `D`. -/
def Meets (R : α → σ → Prop) (E D : σ → Prop) (e : Ending σ α) : Prop :=
  match e.outcome with
  | .returned a => R a e.state
  | .threw => E e.state
  | .died => D e.state

/-- Every run of `p` from `s` that returns satisfies `R`, every run that throws
`E`, and every run the process does not survive `D`. -/
def wp (p : Proc σ α) (R : α → σ → Prop) (E D : σ → Prop) (s : σ) : Prop :=
  ∀ fates, Meets R E D (p fates s)

variable {R R' : α → σ → Prop} {E E' D D' : σ → Prop} {s : σ}

/-- Postconditions may be weakened. -/
theorem wp_mono {p : Proc σ α} (h : wp p R E D s) (hR : ∀ a s', R a s' → R' a s')
    (hE : ∀ s', E s' → E' s') (hD : ∀ s', D s' → D' s') : wp p R' E' D' s := by
  intro fates
  have hp := h fates
  generalize p fates s = e at hp ⊢
  obtain ⟨a | _ | _, s', fates'⟩ := e
  · exact hR a s' hp
  · exact hE s' hp
  · exact hD s' hp

/-- Only what is said of a result is weakened. -/
theorem wp_imp {p : Proc σ α} (h : wp p R E D s) (hR : ∀ a s', R a s' → R' a s') :
    wp p R' E D s := wp_mono h hR (fun _ he => he) fun _ hd => hd

theorem wp_pure {a : α} (h : R a s) : wp (pure a) R E D s := fun _ => h

theorem wp_throw (h : E s) : wp (throw : Proc σ α) R E D s := fun _ => h

theorem wp_get {R : σ → σ → Prop} (h : R s s) : wp get R E D s := fun _ => h

theorem wp_modify {R : Unit → σ → Prop} {f : σ → σ} (h : R () (f s)) :
    wp (modify f) R E D s := fun _ => h

/-- **The await rule.** The operation returns and has taken effect, or it fails
on either side of its effect, or the process dies before it. -/
theorem wp_await {f : σ → α × σ} (hR : R (f s).1 (f s).2) (hE : E s)
    (hE' : E (f s).2) (hD : D s) : wp (await f) R E D s := by
  intro fates
  match fates with
  | [] => exact hR
  | .ok :: _ => exact hR
  | .throws :: _ => exact hE
  | .throwsLate :: _ => exact hE'
  | .dies :: _ => exact hD

/-- The await rule for an operation that only reads. -/
theorem wp_await_read {f : σ → α} (hR : R (f s) s) (hE : E s) (hD : D s) :
    wp (await fun s => (f s, s)) R E D s :=
  wp_await hR hE hE hD

variable {k : α → Proc σ β}

theorem wp_bind {p : Proc σ α} {R : β → σ → Prop}
    (h : wp p (fun a s' => wp (k a) R E D s') E D s) : wp (p >>= k) R E D s := by
  intro fates
  have hp := h fates
  show Meets R E D (andThen p k fates s)
  rw [andThen]
  generalize p fates s = e at hp ⊢
  obtain ⟨a | _ | _, s', fates'⟩ := e
  · exact hp fates'
  · exact hp
  · exact hp

theorem wp_tryCatch {p h : Proc σ α} (hp : wp p R (fun s' => wp h R E D s') D s) :
    wp (tryCatch p h) R E D s := by
  intro fates
  have hp := hp fates
  rw [tryCatch]
  generalize p fates s = e at hp ⊢
  obtain ⟨a | _ | _, s', fates'⟩ := e
  · exact hp
  · exact hp fates'
  · exact hp

theorem wp_zoom {view : σ → τ} {put : τ → σ → σ} {p : Proc τ α}
    (h : wp p (fun a t => R a (put t s)) (fun t => E (put t s)) (fun t => D (put t s))
      (view s)) : wp (zoom view put p) R E D s := by
  intro fates
  have hp := h fates
  rw [zoom]
  generalize p fates (view s) = e at hp ⊢
  obtain ⟨a | _ | _, t, fates'⟩ := e
  · exact hp
  · exact hp
  · exact hp

/-- A procedure about which nothing is known still ends somewhere. -/
theorem wp_any {p : Proc σ α} (hR : ∀ a s', R a s') (hE : ∀ s', E s')
    (hD : ∀ s', D s') : wp p R E D s := by
  intro fates
  obtain ⟨a | _ | _, s', fates'⟩ := p fates s
  · exact hR a s'
  · exact hE s'
  · exact hD s'

/-- Two things that are said of every run. -/
theorem wp_and {p : Proc σ α} (h : wp p R E D s) (h' : wp p R' E' D' s) :
    wp p (fun a s' => R a s' ∧ R' a s') (fun s' => E s' ∧ E' s') (fun s' => D s' ∧ D' s') s := by
  intro fates
  have hp := h fates
  have hp' := h' fates
  generalize p fates s = e at hp hp' ⊢
  obtain ⟨a | _ | _, s', fates'⟩ := e <;> exact ⟨hp, hp'⟩

/-- What a procedure returns, it can return. -/
theorem wp_outcome (p : Proc σ α) :
    wp p (fun a _ => ∃ fates, (p fates s).outcome = .returned a) (fun _ => True)
      (fun _ => True) s := by
  intro fates
  have h : ∀ a, (p fates s).outcome = .returned a →
      ∃ fates, (p fates s).outcome = .returned a := fun _ ha => ⟨fates, ha⟩
  generalize p fates s = e at h ⊢
  obtain ⟨a | _ | _, s', fates'⟩ := e
  · exact h a rfl
  · exact trivial
  · exact trivial

/-- **The loop rule.** `I acc rest` holds before the rest of the list is gone
through with the accumulator `acc`; one round of the body re-establishes it for
the list without its head. -/
theorem wp_foldlM {f : β → α → Proc σ β} (I : β → List α → σ → Prop)
    (step : ∀ acc x rest s, I acc (x :: rest) s →
      wp (f acc x) (fun acc' s' => I acc' rest s') E D s) :
    ∀ (xs : List α) (acc : β) (s : σ), I acc xs s →
      wp (xs.foldlM f acc) (fun acc' s' => I acc' [] s') E D s
  | [], _, _, h => wp_pure h
  | x :: xs, acc, s, h => by
    rw [List.foldlM_cons]
    exact wp_bind (wp_mono (step acc x xs s h)
      (fun acc' s' h' => wp_foldlM I step xs acc' s' h') (fun _ h' => h') (fun _ h' => h'))

/-- What the end of one run satisfies, read off a `wp`. -/
theorem wp_ending {p : Proc σ α} {I : σ → Prop} (h : wp p (fun _ => I) I I s)
    (fates : List Fate) : I (p fates s).state := by
  have hp := h fates
  generalize p fates s = e at hp ⊢
  obtain ⟨a | _ | _, s', fates'⟩ := e <;> exact hp

/-- What a run the process survived satisfies, read off a `wp`. -/
theorem wp_survived {p : Proc σ α} {I : σ → Prop} (h : wp p (fun _ => I) I D s)
    (fates : List Fate) (hd : (p fates s).outcome = .died → False) : I (p fates s).state := by
  have hp := h fates
  generalize p fates s = e at hp hd ⊢
  obtain ⟨a | _ | _, s', fates'⟩ := e
  · exact hp
  · exact hp
  · exact (hd rfl).elim

variable {fates : List Fate}

/-- What a run that returned satisfies, read off a `wp`. -/
theorem wp_returned {p : Proc σ α} (h : wp p R E D s) {a : α}
    (ha : (p fates s).outcome = .returned a) : R a (p fates s).state := by
  have hp := h fates
  rwa [Meets, ha] at hp

/-- What a run that threw satisfies. -/
theorem wp_threw {p : Proc σ α} (h : wp p R E D s)
    (ht : (p fates s).outcome = .threw) : E (p fates s).state := by
  have hp := h fates
  rwa [Meets, ht] at hp

/-! ## One run

`wp` speaks of every run. About one run, whose fates are given, nothing is lost
on the way through a procedure, and the rules are equations. -/

/-- What is said of a moment of a run: of the fates still to come, and of the
state. -/
abbrev Moment (σ : Type) : Type := List Fate → σ → Prop

/-- The run that returns satisfies `R` where it ends, the one that throws `E`, and
the one the process does not survive `D`. -/
def Ends (p : Proc σ α) (R : α → Moment σ) (E D : Moment σ) : Moment σ := fun fates s =>
  match (p fates s).outcome with
  | .returned a => R a (p fates s).fates (p fates s).state
  | .threw => E (p fates s).fates (p fates s).state
  | .died => D (p fates s).fates (p fates s).state

/-- The run satisfies `R` where it returns, if it does. -/
def After (p : Proc σ α) (R : α → Moment σ) : Moment σ :=
  Ends p R (fun _ _ => True) (fun _ _ => True)

section OneRun

variable {R R' : α → Moment σ} {E E' D D' : Moment σ} {fates : List Fate} {s : σ}

theorem ends_pure (a : α) : Ends (pure a) R E D = R a := rfl

/-- What becomes of the next wait of a run: a statement of the fates after it for each way it may
go. -/
def Next (ok throws late dies : List Fate → Prop) : List Fate → Prop
  | [] => ok []
  | .ok :: fates => ok fates
  | .throws :: fates => throws fates
  | .throwsLate :: fates => late fates
  | .dies :: fates => dies fates

theorem ends_await (f : σ → α × σ) : Ends (await f) R E D fates s ↔
    Next (fun fates => R (f s).1 fates (f s).2) (fun fates => E fates s)
      (fun fates => E fates (f s).2) (fun fates => D fates s) fates := by
  rcases fates with _ | ⟨fate, fates⟩
  · exact .rfl
  · cases fate <;> exact .rfl

theorem next_congr {ok ok' throws throws' late late' dies dies' : List Fate → Prop}
    (hok : ∀ f, ok f ↔ ok' f) (hthrows : ∀ f, throws f ↔ throws' f) (hlate : ∀ f, late f ↔ late' f)
    (hdies : ∀ f, dies f ↔ dies' f) (fates : List Fate) :
    Next ok throws late dies fates ↔ Next ok' throws' late' dies' fates := by
  rcases fates with _ | ⟨fate, fates⟩
  · exact hok []
  · cases fate with
    | ok => exact hok fates
    | throws => exact hthrows fates
    | throwsLate => exact hlate fates
    | dies => exact hdies fates

theorem ends_bind (p : Proc σ α) (k : α → Proc σ β) {R : β → Moment σ} :
    Ends (p >>= k) R E D = Ends p (fun a => Ends (k a) R E D) E D := by
  funext fates s
  unfold Ends
  show (match (andThen p k fates s).outcome with
    | .returned b => R b (andThen p k fates s).fates (andThen p k fates s).state
    | .threw => E (andThen p k fates s).fates (andThen p k fates s).state
    | .died => D (andThen p k fates s).fates (andThen p k fates s).state) = _
  rw [andThen]
  generalize p fates s = e
  obtain ⟨a | _ | _, s', fates'⟩ := e <;> rfl

theorem ends_tryCatch (p h : Proc σ α) :
    Ends (tryCatch p h) R E D = Ends p R (Ends h R E D) D := by
  funext fates s
  unfold Ends tryCatch
  generalize p fates s = e
  obtain ⟨a | _ | _, s', fates'⟩ := e <;> rfl

variable {p : Proc σ α}

/-- Postconditions may be replaced by others that agree with them wherever a run
of the procedure can end. -/
theorem ends_congr (h : wp p (fun a s' => ∀ f, R a f s' ↔ R' a f s')
      (fun s' => ∀ f, E f s' ↔ E' f s') (fun s' => ∀ f, D f s' ↔ D' f s') s) :
    Ends p R E D fates s ↔ Ends p R' E' D' fates s := by
  unfold wp at h
  have hp := h fates
  unfold Ends
  generalize p fates s = e at hp ⊢
  obtain ⟨a | _ | _, s', fates'⟩ := e
  · exact hp fates'
  · exact hp fates'
  · exact hp fates'

/-- Two things that are said of one run. -/
theorem ends_and {R'' : α → Moment σ} {E'' D'' : Moment σ}
    (h : Ends p R E D fates s) (h' : Ends p R' E' D' fates s)
    (hR : ∀ a f s', R a f s' → R' a f s' → R'' a f s') (hE : ∀ f s', E f s' → E' f s' → E'' f s')
    (hD : ∀ f s', D f s' → D' f s' → D'' f s') : Ends p R'' E'' D'' fates s := by
  unfold Ends at h h' ⊢
  generalize p fates s = e at h h' ⊢
  obtain ⟨a | _ | _, s', fates'⟩ := e
  · exact hR a fates' s' h h'
  · exact hE fates' s' h h'
  · exact hD fates' s' h h'

theorem Ends.mono (h : Ends p R E D fates s)
    (hR : ∀ a f s', R a f s' → R' a f s') (hE : ∀ f s', E f s' → E' f s')
    (hD : ∀ f s', D f s' → D' f s') : Ends p R' E' D' fates s :=
  ends_and h h (fun a f s' h _ => hR a f s' h) (fun f s' h _ => hE f s' h)
    (fun f s' h _ => hD f s' h)

/-- What every run satisfies, one run satisfies. -/
theorem ends_of_wp {R : α → σ → Prop} {E D : σ → Prop} (h : wp p R E D s) :
    Ends p (fun a _ => R a) (fun _ => E) (fun _ => D) fates s := by
  unfold wp at h
  have hp := h fates
  unfold Ends
  generalize p fates s = e at hp ⊢
  obtain ⟨a | _ | _, s', fates'⟩ := e <;> exact hp

/-- What the end of one run satisfies, whichever it is. -/
theorem Ends.state {I : σ → Prop}
    (h : Ends p (fun _ _ => I) (fun _ => I) (fun _ => I) fates s) : I (p fates s).state := by
  unfold Ends at h
  generalize p fates s = e at h ⊢
  obtain ⟨a | _ | _, s', fates'⟩ := e <;> exact h

/-- A run about which only the impossible is said does not exist. -/
theorem ends_false (p : Proc σ α) :
    Ends p (fun _ _ _ => False) (fun _ _ => False) (fun _ _ => False) fates s ↔ False := by
  refine iff_false_intro fun h => ?_
  unfold Ends at h
  generalize p fates s = e at h
  obtain ⟨a | _ | _, s', fates'⟩ := e <;> exact h

end OneRun

/-! Procedures are reasoned about through the rules above; looking through `wp`
would run the procedure symbolically. -/

attribute [irreducible] wp

/-! ## Invariants

Most of what is said about a procedure is that it keeps an invariant wherever it
is interrupted, and that its result, if it returns one, is of a certain kind. -/

/-- Every run of `p` from a state with `I` ends in one with `I`, and a result it
returns satisfies `Q`. -/
def Keeps (I : σ → Prop) (p : Proc σ α) (Q : α → Prop) : Prop :=
  ∀ s, I s → wp p (fun a s' => I s' ∧ Q a) I I s

variable {I : σ → Prop} {Q Q' : α → Prop}

theorem keeps_of_wp {p : Proc σ α} (h : ∀ s, I s → wp p (fun a s' => I s' ∧ Q a) I I s) :
    Keeps I p Q := h

theorem Keeps.wp {p : Proc σ α} (h : Keeps I p Q) {s : σ} (hs : I s) :
    wp p (fun a s' => I s' ∧ Q a) I I s := h s hs

theorem Keeps.mono {p : Proc σ α} (h : Keeps I p Q) (hQ : ∀ a, Q a → Q' a) :
    Keeps I p Q' := fun s hs =>
  wp_mono (h s hs) (fun a _ ha => ⟨ha.1, hQ a ha.2⟩) (fun _ he => he) (fun _ hd => hd)

theorem keeps_pure {a : α} (h : Q a) : Keeps I (pure a) Q := fun _ hs => wp_pure ⟨hs, h⟩

theorem keeps_bind {p : Proc σ α} {Q' : β → Prop} (hp : Keeps I p Q)
    (hk : ∀ a, Q a → Keeps I (k a) Q') : Keeps I (p >>= k) Q' := fun s hs =>
  wp_bind (wp_mono (hp s hs) (fun a s' ha => hk a ha.2 s' ha.1) (fun _ he => he)
    (fun _ hd => hd))

/-- Every run of `p` from a state with `I` ends in one with `I`, whatever it returns. -/
abbrev Holds (I : σ → Prop) (p : Proc σ α) : Prop := Keeps I p fun _ => True

theorem holds_pure {a : α} : Holds I (pure a) := keeps_pure trivial

theorem holds_throw : Holds I (throw : Proc σ α) := fun _ hs => wp_throw hs

/-- `keeps_bind` where the result is not used. -/
theorem keeps_seq {p : Proc σ α} {Q' : β → Prop} (hp : Keeps I p Q)
    (hk : ∀ a, Keeps I (k a) Q') : Keeps I (p >>= k) Q' := keeps_bind hp fun a _ => hk a

theorem keeps_last {p : Proc σ α} {f : α → β} (hp : Keeps I p Q) :
    Holds I (p >>= fun a => pure (f a)) := keeps_seq hp fun _ => holds_pure

theorem keeps_tryCatch {p h : Proc σ α} (hp : Keeps I p Q) (hh : Keeps I h Q) :
    Keeps I (tryCatch p h) Q := fun s hs =>
  wp_tryCatch (wp_mono (hp s hs) (fun _ _ ha => ha) (fun s' he => hh s' he) (fun _ hd => hd))

theorem keeps_get : Keeps I get I := fun _ hs => wp_get ⟨hs, hs⟩

theorem keeps_modify {f : σ → σ} (h : ∀ s, I s → I (f s)) :
    Keeps I (modify f) (fun _ => True) := fun s hs => wp_modify ⟨h s hs, trivial⟩

/-- A procedure over a part of the state that the invariant does not look at. -/
theorem keeps_zoom {view : σ → τ} {put : τ → σ → σ} {p : Proc τ α}
    (h : ∀ s t, I s → I (put t s)) : Keeps I (zoom view put p) (fun _ => True) := fun s hs =>
  wp_zoom (wp_any (fun _ t => ⟨h s t hs, trivial⟩) (fun t => h s t hs) (fun t => h s t hs))

theorem keeps_foldlM {f : β → α → Proc σ β} {xs : List α}
    (step : ∀ acc, ∀ x ∈ xs, Keeps I (f acc x) (fun _ => True)) :
    ∀ acc, Keeps I (xs.foldlM f acc) (fun _ => True) := by
  induction xs with
  | nil => exact fun acc => keeps_pure trivial
  | cons x xs ih =>
    intro acc
    rw [List.foldlM_cons]
    exact keeps_bind (step acc x List.mem_cons_self)
      (fun acc' _ => ih (fun a y hy => step a y (List.mem_cons_of_mem _ hy)) acc')

/-- What the end of a run of an invariant-keeping procedure satisfies. -/
theorem Keeps.ending {p : Proc σ α} (h : Keeps I p Q) {s : σ} (hs : I s)
    (fates : List Fate) : I (p fates s).state :=
  wp_ending (wp_mono (h s hs) (fun _ _ ha => ha.1) (fun _ he => he) (fun _ hd => hd)) fates

/-- What is said of the end of a run may use what an invariant-keeping procedure
keeps. -/
theorem Keeps.ends_iff {p : Proc σ α} (h : Keeps I p Q) {s : σ} (hs : I s)
    {R R' : α → Moment σ} {E E' D D' : Moment σ}
    (hR : ∀ a, Q a → ∀ s', I s' → ∀ f, R a f s' ↔ R' a f s')
    (hE : ∀ s', I s' → ∀ f, E f s' ↔ E' f s') (hD : ∀ s', I s' → ∀ f, D f s' ↔ D' f s') :
    Ends p R E D fates s ↔ Ends p R' E' D' fates s :=
  ends_congr (wp_mono (h s hs) (fun a s' ha => hR a ha.2 s' ha.1) hE hD)

attribute [irreducible] Keeps

end Proc

end RezChat
