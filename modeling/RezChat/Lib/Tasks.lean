/-
Interleaved procedures.

A task is a procedure that others may come between. It changes the state synchronously for
a while, and then it waits: for an operation of the outside to take effect, which may fail,
or, once that has happened, for its turn to go on. A pool holds the tasks that are under way,
and a step of it lets one of them run until it waits again; when the process dies, all of
them are gone.

The second half of the file is a rely-guarantee logic. A discipline says what always holds
between two steps, and what each task may rely on while it waits. A task is safe if each of
its segments, started in any state that its waiting may end in, keeps the invariant and what
the others rely on (`Task.Safe`). Then the invariant holds throughout every run of a pool of
safe tasks, however they are interleaved (`Pool.run_inv`).
-/
import RezChat.Lib.Calm
import RezChat.Lib.OrdMap
import RezChat.Lib.Runs

set_option autoImplicit false

namespace RezChat

open Proc OrdMap

/-- What comes of an awaited operation in a process that lives on. -/
inductive Response where
  | ok
  | throws
  | throwsLate
  deriving DecidableEq

/-- A procedure that waits now and then. -/
inductive Task (σ α : Type) : Type where
  | done (a : α)
  | failed
  /-- Change the state, and go on; what follows may depend on the state before. -/
  | act (f : σ → σ) (next : σ → Task σ α)
  /-- Wait for an operation of the outside. -/
  | wait (next : Response → Task σ α)
  /-- Wait for the turn to go on. -/
  | pause (next : Task σ α)

namespace Task

variable {σ α β : Type}

/-- Run `t`, and go on with `k` if it returned. -/
def andThen (k : α → Task σ β) : Task σ α → Task σ β
  | done a => k a
  | failed => failed
  | act f next => act f fun s => andThen k (next s)
  | wait next => wait fun r => andThen k (next r)
  | pause next => pause (andThen k next)

instance : Monad (Task σ) where
  pure := done
  bind t k := andThen k t

/-- Run `t`, and `h` if `t` failed. -/
def tryCatch (h : Task σ α) : Task σ α → Task σ α
  | done a => done a
  | failed => h
  | act f next => act f fun s => tryCatch h (next s)
  | wait next => wait fun r => tryCatch h (next r)
  | pause next => pause (tryCatch h next)

/-- Read the state. -/
def get : Task σ σ := act id done

/-- Change the state. -/
def modify (f : σ → σ) : Task σ Unit := act f fun _ => done ()

/-- Await an operation whose effect and result are `f`. Others may come between its effect
and the moment the task goes on. -/
def await (f : σ → α × σ) : Task σ α := wait fun
  | .ok => act (fun s => (f s).2) fun s => pause (done (f s).1)
  | .throws => pause failed
  | .throwsLate => act (fun s => (f s).2) fun _ => pause failed

/-- Await a computation that touches no state. It yields `v`, or is rejected where that is none;
and whatever it would yield, it may fail. -/
def compute (v : Option α) : Task σ α := wait fun
  | .ok => pause (match v with
    | some a => done a
    | none => failed)
  | .throws => pause failed
  | .throwsLate => pause failed

/-- An asynchronous call is awaited: whether it returns or fails, its caller goes on in a turn of
its own. -/
def called (t : Task σ α) : Task σ α := andThen (fun a => pause (done a)) (tryCatch (pause failed) t)

/-- A task over one component of the state. -/
def zoom {τ : Type} (view : σ → τ) (put : τ → σ → σ) : Task τ α → Task σ α
  | done a => done a
  | failed => failed
  | act f next => act (fun s => put (f (view s)) s) fun s => zoom view put (next (view s))
  | wait next => wait fun r => zoom view put (next r)
  | pause next => pause (zoom view put next)

/-- Run a task up to the point where it waits, or ends. -/
def advance : Task σ α → σ → σ × Task σ α
  | act f next, s => advance (next s) (f s)
  | done a, s => (s, done a)
  | failed, s => (s, failed)
  | wait next, s => (s, wait next)
  | pause next, s => (s, pause next)

/-- A task that waited goes on. -/
def resumed (r : Response) : Task σ α → Task σ α
  | wait next => next r
  | pause next => next
  | t => t

/-- A task that nothing comes between is a procedure. -/
def exec : Task σ α → Proc σ α
  | done a => ret a
  | failed => throw
  | act f next => fun fates s => exec (next s) fates (f s)
  | wait next => fun fates s =>
    match fates with
    | [] => exec (next .ok) [] s
    | .ok :: fates => exec (next .ok) fates s
    | .throws :: fates => exec (next .throws) fates s
    | .throwsLate :: fates => exec (next .throwsLate) fates s
    | .dies :: fates => ⟨.died, s, fates⟩
  | pause next => exec next

/-! ## Tasks that nothing comes between -/

section Alone

variable {R : α → σ → Prop} {E D : σ → Prop}

@[simp] theorem exec_get : exec (get : Task σ σ) = Proc.get := rfl

@[simp] theorem exec_modify (f : σ → σ) : exec (modify f) = Proc.modify f := rfl

/-- By induction on the first task: it is run to its end before the second one starts. -/
@[simp] theorem exec_bind (t : Task σ α) (k : α → Task σ β) :
    exec (t >>= k) = exec t >>= fun a => exec (k a) := by
  show exec (andThen k t) = Proc.andThen (exec t) fun a => exec (k a)
  induction t with
  | done a => rfl
  | failed => rfl
  | act f next ih => exact funext fun fates => funext fun s => congrFun (congrFun (ih s) fates) (f s)
  | wait next ih =>
    refine funext fun fates => funext fun s => ?_
    rcases fates with _ | ⟨fate, fates⟩
    · exact congrFun (congrFun (ih .ok) []) s
    · cases fate with
      | ok => exact congrFun (congrFun (ih .ok) fates) s
      | throws => exact congrFun (congrFun (ih .throws) fates) s
      | throwsLate => exact congrFun (congrFun (ih .throwsLate) fates) s
      | dies => rfl
  | pause next ih => exact ih

@[simp] theorem exec_tryCatch (t h : Task σ α) :
    exec (tryCatch h t) = Proc.tryCatch (exec t) (exec h) := by
  induction t with
  | done a => rfl
  | failed => rfl
  | act f next ih => exact funext fun fates => funext fun s => congrFun (congrFun (ih s) fates) (f s)
  | wait next ih =>
    refine funext fun fates => funext fun s => ?_
    rcases fates with _ | ⟨fate, fates⟩
    · exact congrFun (congrFun (ih .ok) []) s
    · cases fate with
      | ok => exact congrFun (congrFun (ih .ok) fates) s
      | throws => exact congrFun (congrFun (ih .throws) fates) s
      | throwsLate => exact congrFun (congrFun (ih .throwsLate) fates) s
      | dies => rfl
  | pause next ih => exact ih

/-- With nobody to come between, it is all one whether others could. -/
theorem exec_await (f : σ → α × σ) : exec (await f) = Proc.await f := by
  refine funext fun fates => funext fun s => ?_
  rcases fates with _ | ⟨fate, fates⟩
  · rfl
  · cases fate <;> rfl

@[simp] theorem exec_called (t : Task σ α) : exec (called t) = exec t := by
  show exec (tryCatch (pause failed) t >>= fun a => pause (done a)) = exec t
  rw [exec_bind, exec_tryCatch]
  refine funext fun fates => funext fun s => ?_
  show Proc.andThen (Proc.tryCatch (exec t) Proc.throw) Proc.ret fates s = exec t fates s
  rw [Proc.andThen, Proc.tryCatch]
  generalize exec t fates s = e
  obtain ⟨a | _ | _, s', fates'⟩ := e <;> rfl

/-- A computation is an await that has no effect. -/
theorem exec_compute (v : Option α) :
    exec (compute v : Task σ α) = Proc.await (fun s => (v, s)) >>= fun v =>
      match v with
      | some a => pure a
      | none => Proc.throw := by
  show exec (compute v) = Proc.andThen (Proc.await fun s => (v, s)) _
  refine funext fun fates => funext fun s => ?_
  rcases fates with _ | ⟨fate, fates⟩
  · cases v <;> rfl
  · cases fate <;> cases v <;> rfl

variable {v : Option α}

/-- It leaves the state alone, whatever becomes of it. -/
theorem wp_compute {s : σ} (hR : ∀ a, v = some a → R a s) (hE : E s) (hD : D s) :
    wp (exec (compute v)) R E D s := by
  rw [exec_compute]
  refine wp_bind (wp_await ?_ hE hE hD)
  cases v with
  | none => exact wp_throw hE
  | some a => exact wp_pure (hR a rfl)

/-! The rules for a task that goes on after its first part. -/

variable {R : β → σ → Prop} {k : α → Task σ β} {s : σ}

theorem wp_computed (hk : ∀ a, v = some a → wp (exec (k a)) R E D s) (hE : E s)
    (hD : D s) : wp (exec (compute v >>= k)) R E D s := by
  rw [exec_bind]
  exact wp_bind (wp_compute hk hE hD)

theorem wp_modified {f : σ → σ} {k : Unit → Task σ β} (hk : wp (exec (k ())) R E D (f s)) :
    wp (exec (modify f >>= k)) R E D s := by
  rw [exec_bind, exec_modify]
  exact wp_bind (wp_modify hk)

theorem wp_awaited {f : σ → α × σ} (hk : wp (exec (k (f s).1)) R E D (f s).2) (hE : E s)
    (hE' : E (f s).2) (hD : D s) : wp (exec (await f >>= k)) R E D s := by
  rw [exec_bind, exec_await]
  exact wp_bind (wp_await hk hE hE' hD)

theorem wp_caught {t h : Task σ β} {F : σ → Prop} (ht : wp (exec t) R F D s)
    (hh : ∀ s, F s → wp (exec h) R E D s) : wp (exec (tryCatch h t)) R E D s := by
  rw [exec_tryCatch]
  exact wp_tryCatch (wp_mono ht (fun _ _ h => h) hh (fun _ h => h))

theorem wp_got {k : σ → Task σ β} (hk : wp (exec (k s)) R E D s) :
    wp (exec (get >>= k)) R E D s := by
  rw [exec_bind, exec_get]
  exact wp_bind (wp_get hk)

theorem wp_seq {t : Task σ α} {K : α → σ → Prop} (ht : wp (exec t) K E D s)
    (hk : ∀ a s, K a s → wp (exec (k a)) R E D s) : wp (exec (t >>= k)) R E D s := by
  rw [exec_bind]
  exact wp_bind (wp_imp ht hk)

variable {b : β} {s' : σ}

theorem yields_computed {a : α} (hv : v = some a)
    (hk : Yields (exec (k a)) s b s') : Yields (exec (compute v >>= k)) s b s' := by
  rw [exec_bind, exec_compute, hv]
  exact Yields.bind (Yields.bind (yields_await _ s) (yields_pure a s)) hk

theorem yields_awaited {f : σ → α × σ}
    (hk : Yields (exec (k (f s).1)) (f s).2 b s') :
    Yields (exec (await f >>= k)) s b s' := by
  rw [exec_bind, exec_await]
  exact (yields_await f s).bind hk

theorem yields_modified {f : σ → σ} {k : Unit → Task σ β}
    (hk : Yields (exec (k ())) (f s) b s') : Yields (exec (modify f >>= k)) s b s' := by
  rw [exec_bind]
  exact (yields_modify f s).bind hk

theorem yields_got {k : σ → Task σ β} (hk : Yields (exec (k s)) s b s') :
    Yields (exec (get >>= k)) s b s' := by
  rw [exec_bind]
  exact (yields_get s).bind hk

theorem yields_seq {t : Task σ α} {a : α} {s₁ s' : σ} (ht : Yields (exec t) s a s₁)
    (hk : Yields (exec (k a)) s₁ b s') : Yields (exec (t >>= k)) s b s' := by
  rw [exec_bind]
  exact ht.bind hk

/-! What a run comes to, said exactly, in the fates that are left. -/

section Ends

variable {R : β → Moment σ} {E D : Moment σ} {fates : List Fate}

theorem ends_got {k : σ → Task σ β} : Ends (exec (get >>= k)) R E D fates s ↔
    Ends (exec (k s)) R E D fates s := by
  rw [exec_bind, ends_bind]
  exact .rfl

theorem ends_modified {f : σ → σ} {k : Unit → Task σ β} :
    Ends (exec (modify f >>= k)) R E D fates s ↔
      Ends (exec (k ())) R E D fates (f s) := by
  rw [exec_bind, ends_bind]
  exact .rfl

theorem ends_awaited {f : σ → α × σ} : Ends (exec (await f >>= k)) R E D fates s ↔
    Next (fun fates => Ends (exec (k (f s).1)) R E D fates (f s).2)
      (fun fates => E fates s) (fun fates => E fates (f s).2) (fun fates => D fates s) fates := by
  rw [exec_bind, ends_bind, exec_await, ends_await]

theorem ends_computed {v : Option α} : Ends (exec (compute v >>= k)) R E D fates s ↔
    Next (fun fates => match v with
      | some a => Ends (exec (k a)) R E D fates s
      | none => E fates s) (fun fates => E fates s) (fun fates => E fates s)
      (fun fates => D fates s) fates := by
  rw [exec_bind, exec_compute, ends_bind, ends_bind, ends_await]
  refine next_congr (fun f => ?_) (fun _ => .rfl) (fun _ => .rfl) (fun _ => .rfl) fates
  cases v with
  | some a => exact .rfl
  | none => exact .rfl

theorem ends_called {t : Task σ α} {k : α → Task σ β} :
    Ends (exec (called t >>= k)) R E D fates s ↔
      Ends (exec (t >>= k)) R E D fates s := by
  rw [exec_bind, exec_called, exec_bind]

end Ends

/-! Whether a task gets through where nothing fails, whatever it returns then. -/

/-- Where nothing fails, the task returns. -/
def Succeeds (t : Task σ α) (s : σ) : Prop := ∃ a s', Yields (exec t) s a s'

/-- A task that no run of returns does not succeed. -/
theorem not_succeeds {t : Task σ α} (h : wp (exec t) (fun _ _ => False) E D s) :
    ¬Succeeds t s := by
  rintro ⟨a, s', hyields⟩
  have hreturned : (exec t [] s).outcome = .returned a := congrArg Ending.outcome hyields
  exact wp_returned h hreturned

theorem succeeds_pure (a : α) (s : σ) : Succeeds (pure a) s := ⟨a, s, yields_pure a s⟩

theorem succeeds_await (f : σ → α × σ) (s : σ) : Succeeds (await f) s := by
  refine ⟨(f s).1, (f s).2, ?_⟩
  rw [exec_await]
  exact yields_await f s

theorem succeeds_compute (a : α) (s : σ) : Succeeds (compute (some a)) s := by
  refine ⟨a, s, ?_⟩
  rw [exec_compute]
  exact (yields_await _ s).bind (yields_pure a s)

theorem succeeds_called {t : Task σ α} (h : Succeeds t s) : Succeeds (called t) s := by
  rw [Succeeds, exec_called]
  exact h

theorem succeeds_seq {t : Task σ α} {a : α} (ht : Yields (exec t) s a s')
    (hk : Succeeds (k a) s') : Succeeds (t >>= k) s := by
  obtain ⟨b, s'', hb⟩ := hk
  exact ⟨b, s'', yields_seq ht hb⟩

theorem succeeds_awaited {f : σ → α × σ} (hk : Succeeds (k (f s).1) (f s).2) :
    Succeeds (await f >>= k) s := by
  obtain ⟨b, s', hb⟩ := hk
  exact ⟨b, s', yields_awaited hb⟩

theorem succeeds_modified {f : σ → σ} {k : Unit → Task σ β} (hk : Succeeds (k ()) (f s)) :
    Succeeds (modify f >>= k) s := by
  obtain ⟨b, s', hb⟩ := hk
  exact ⟨b, s', yields_modified hb⟩

theorem succeeds_got {k : σ → Task σ β} (hk : Succeeds (k s) s) : Succeeds (get >>= k) s := by
  obtain ⟨b, s', hb⟩ := hk
  exact ⟨b, s', yields_got hb⟩

theorem succeeds_tryCatch {t : Task σ β} (ht : Succeeds t s) (h : Task σ β) :
    Succeeds (tryCatch h t) s := by
  obtain ⟨b, s', hb⟩ := ht
  refine ⟨b, s', ?_⟩
  rw [exec_tryCatch]
  exact hb.tryCatch _

/-- A part that succeeds, and leaves nothing that matters to what follows. -/
theorem succeeds_then {t : Task σ α} (ht : Succeeds t s) (hk : ∀ a s', Succeeds (k a) s') :
    Succeeds (t >>= k) s := by
  obtain ⟨a, s', ha⟩ := ht
  exact succeeds_seq ha (hk a s')

end Alone

/-! ## What a task may change

A relation that every single change of a task respects, from whichever state, holds between the
state a task starts in and the one it ends in. It is looked for change by change, so nothing need be
known of what the task is for. -/

section Within

variable {Rel Rel' : σ → σ → Prop}

/-- Every change that the task makes is one of `Rel`. -/
def Within (Rel : σ → σ → Prop) : Task σ α → Prop
  | done _ => True
  | failed => True
  | act f next => (∀ s, Rel s (f s)) ∧ ∀ s, Within Rel (next s)
  | wait next => ∀ r, Within Rel (next r)
  | pause next => Within Rel next

theorem within_pure (a : α) : Within Rel (pure a : Task σ α) := trivial

theorem within_failed : Within Rel (failed : Task σ α) := trivial

theorem within_await {f : σ → α × σ} (h : ∀ s, Rel s (f s).2) : Within Rel (await f) := by
  intro r
  cases r with
  | ok => exact ⟨h, fun _ => trivial⟩
  | throws => trivial
  | throwsLate => exact ⟨h, fun _ => trivial⟩

theorem within_compute (v : Option α) : Within Rel (compute v : Task σ α) := by
  intro r
  cases r with
  | ok =>
    cases v with
    | none => trivial
    | some a => trivial
  | throws => trivial
  | throwsLate => trivial

theorem within_bind {k : α → Task σ β} : ∀ {t : Task σ α}, Within Rel t →
    (∀ a, Within Rel (k a)) → Within Rel (t >>= k)
  | done a, _, hk => hk a
  | failed, _, _ => trivial
  | act _ next, h, hk => ⟨h.1, fun s => within_bind (t := next s) (h.2 s) hk⟩
  | wait next, h, hk => fun r => within_bind (t := next r) (h r) hk
  | pause next, h, hk => within_bind (t := next) h hk

theorem within_tryCatch {h : Task σ α} (hh : Within Rel h) :
    ∀ {t : Task σ α}, Within Rel t → Within Rel (tryCatch h t)
  | done _, _ => trivial
  | failed, _ => hh
  | act _ next, ht => ⟨ht.1, fun s => within_tryCatch hh (t := next s) (ht.2 s)⟩
  | wait next, ht => fun r => within_tryCatch hh (t := next r) (ht r)
  | pause next, ht => within_tryCatch hh (t := next) ht

theorem within_called {t : Task σ α} (h : Within Rel t) : Within Rel (called t) :=
  within_bind (within_tryCatch (h := pause failed) trivial h) fun _ => trivial

/-- **Runs of a bounded task.** What its changes respect, every run of it respects. -/
theorem Within.wp (hrefl : ∀ s, Rel s s) (htrans : ∀ s s' s'', Rel s s' → Rel s' s'' → Rel s s'') :
    ∀ {t : Task σ α}, Within Rel t → ∀ (s₀ s : σ), Rel s₀ s →
      wp (exec t) (fun _ s' => Rel s₀ s') (fun s' => Rel s₀ s') (fun s' => Rel s₀ s') s
  | done _, _, _, _, hs => wp_pure hs
  | failed, _, _, _, hs => wp_throw hs
  | act f next, h, s₀, s, hs => by
    have hnext := Within.wp hrefl htrans (t := next s) (h.2 s) s₀ (f s) (htrans _ _ _ hs (h.1 s))
    unfold Proc.wp at hnext ⊢
    exact hnext
  | wait next, h, s₀, s, hs => by
    have hnext := fun r => Within.wp hrefl htrans (t := next r) (h r) s₀ s hs
    unfold Proc.wp at hnext ⊢
    rintro (_ | ⟨fate, fates⟩)
    · exact hnext .ok []
    · cases fate with
      | ok => exact hnext .ok fates
      | throws => exact hnext .throws fates
      | throwsLate => exact hnext .throwsLate fates
      | dies => exact hs
  | pause next, h, s₀, s, hs => Within.wp hrefl htrans (t := next) h s₀ s hs

attribute [irreducible] Within

end Within

/-! ## What a task keeps -/

section Keeps

variable {I : σ → Prop} {Q : α → Prop}

/-- However a run of the task ends that starts where `I` holds, `I` holds there; and what it
returns satisfies `Q`. -/
abbrev Keeps (I : σ → Prop) (t : Task σ α) (Q : α → Prop) : Prop := Proc.Keeps I (exec t) Q

theorem keeps_pure {a : α} (h : Q a) : Keeps I (pure a) Q := Proc.keeps_pure h

theorem keeps_failed : Keeps I (failed : Task σ α) Q :=
  keeps_of_wp fun _ hs => wp_throw hs

theorem keeps_modify {f : σ → σ} (h : ∀ s, I s → I (f s)) : Keeps I (modify f) fun _ => True :=
  Proc.keeps_modify h

theorem keeps_await {f : σ → α × σ} (h : ∀ s, I s → I (f s).2) :
    Keeps I (await f) fun _ => True := by
  refine keeps_of_wp fun s hs => ?_
  rw [exec_await]
  exact wp_await ⟨h s hs, trivial⟩ hs (h s hs) hs

theorem keeps_compute (v : Option α) : Keeps I (compute v) fun a => v = some a :=
  keeps_of_wp fun _ hs => wp_compute (fun _ ha => ⟨hs, ha⟩) hs hs

theorem keeps_bind {t : Task σ α} {k : α → Task σ β} {P : β → Prop} (ht : Keeps I t Q)
    (hk : ∀ a, Q a → Keeps I (k a) P) : Keeps I (t >>= k) P := by
  unfold Keeps
  rw [exec_bind]
  exact Proc.keeps_bind ht hk

theorem keeps_got {k : σ → Task σ β} {P : β → Prop} (hk : ∀ s, Keeps I (k s) P) :
    Keeps I (get >>= k) P :=
  keeps_of_wp fun s hs => wp_got ((hk s).wp hs)

theorem keeps_tryCatch {t h : Task σ α} (ht : Keeps I t Q) (hh : Keeps I h Q) :
    Keeps I (tryCatch h t) Q := by
  unfold Keeps
  rw [exec_tryCatch]
  exact Proc.keeps_tryCatch ht hh

theorem keeps_called {t : Task σ α} (ht : Keeps I t Q) : Keeps I (called t) Q := by
  unfold Keeps
  rw [exec_called]
  exact ht

end Keeps

/-! ## Safe tasks -/

/-- What always holds, and what the task with a number may rely on while it waits. -/
structure Discipline (σ : Type) where
  inv : σ → Prop
  rely : Nat → σ → σ → Prop
  refl : ∀ i s, rely i s s
  trans : ∀ {i s s' s''}, rely i s s' → rely i s' s'' → rely i s s''

variable {D : Discipline σ} {i : Nat} {R R' : α → σ → σ → Prop} {E E' : σ → σ → Prop}
  {s₀ s : σ}

/-- What a segment of the task `i` has to establish, from its start to the point where the
task waits or ends. -/
def Discipline.Settled (D : Discipline σ) (i : Nat) (s₀ s : σ) : Prop :=
  D.inv s ∧ ∀ j, j ≠ i → D.rely j s₀ s

/-- The task `i` is safe in the state `s` of a segment that started in `s₀`: every segment is
settled up to its last, which ends with `R`, or with `E` if the task fails. -/
def Safe (D : Discipline σ) (i : Nat) (R : α → σ → σ → Prop) (E : σ → σ → Prop) :
    Task σ α → σ → σ → Prop
  | done a, s₀, s => R a s₀ s
  | failed, s₀, s => E s₀ s
  | act f next, s₀, s => Safe D i R E (next s) s₀ (f s)
  | wait next, s₀, s => D.Settled i s₀ s ∧
      ∀ r s', D.inv s' → D.rely i s s' → Safe D i R E (next r) s' s'
  | pause next, s₀, s => D.Settled i s₀ s ∧
      ∀ s', D.inv s' → D.rely i s s' → Safe D i R E next s' s'

theorem Safe.mono (hR : ∀ a s₀ s, R a s₀ s → R' a s₀ s) (hE : ∀ s₀ s, E s₀ s → E' s₀ s) :
    ∀ {t : Task σ α} {s₀ s : σ}, Safe D i R E t s₀ s → Safe D i R' E' t s₀ s
  | done _, _, _, h => hR _ _ _ h
  | failed, _, _, h => hE _ _ h
  | act _ next, _, s, h => Safe.mono hR hE (t := next s) h
  | wait next, _, _, h => ⟨h.1, fun r s' hs' hrely => Safe.mono hR hE (t := next r) (h.2 r s' hs' hrely)⟩
  | pause next, _, _, h => ⟨h.1, fun s' hs' hrely => Safe.mono hR hE (t := next) (h.2 s' hs' hrely)⟩

theorem safe_pure {a : α} (h : R a s₀ s) : Safe D i R E (pure a) s₀ s := h

theorem safe_act {f : σ → σ} {next : σ → Task σ α} (h : Safe D i R E (next s) s₀ (f s)) :
    Safe D i R E (act f next) s₀ s := h

/-- A sequence of tasks. -/
theorem safe_bind {k : α → Task σ β} {R : β → σ → σ → Prop} :
    ∀ {t : Task σ α} {s₀ s : σ}, Safe D i (fun a s₀ s => Safe D i R E (k a) s₀ s) E t s₀ s →
      Safe D i R E (t >>= k) s₀ s
  | done _, _, _, h => h
  | failed, _, _, h => h
  | act _ next, _, s, h => safe_bind (t := next s) h
  | wait next, _, _, h => ⟨h.1, fun r s' hs' hrely => safe_bind (t := next r) (h.2 r s' hs' hrely)⟩
  | pause next, _, _, h => ⟨h.1, fun s' hs' hrely => safe_bind (t := next) (h.2 s' hs' hrely)⟩

theorem safe_tryCatch {h : Task σ α} :
    ∀ {t : Task σ α} {s₀ s : σ}, Safe D i R (fun s₀ s => Safe D i R E h s₀ s) t s₀ s →
      Safe D i R E (tryCatch h t) s₀ s
  | done _, _, _, ht => ht
  | failed, _, _, ht => ht
  | act _ next, _, s, ht => safe_tryCatch (t := next s) ht
  | wait next, _, _, ht =>
    ⟨ht.1, fun r s' hs' hrely => safe_tryCatch (t := next r) (ht.2 r s' hs' hrely)⟩
  | pause next, _, _, ht => ⟨ht.1, fun s' hs' hrely => safe_tryCatch (t := next) (ht.2 s' hs' hrely)⟩

theorem safe_modify {f : σ → σ} {R : Unit → σ → σ → Prop} (h : R () s₀ (f s)) :
    Safe D i R E (modify f) s₀ s := h

/-- An awaited operation: its effect is settled, and what follows is told of everything that
others did around it. -/
theorem safe_await {f : σ → α × σ} (h : D.Settled i s₀ s)
    (heffect : ∀ s', D.inv s' → D.rely i s s' → D.Settled i s' (f s').2)
    (hR : ∀ s', D.inv s' → D.rely i s s' → ∀ s'', D.inv s'' → D.rely i (f s').2 s'' →
      R (f s').1 s'' s'')
    (hE : ∀ s', D.inv s' → E s' s') : Safe D i R E (await f) s₀ s := by
  refine ⟨h, fun r s' hs' hrely => ?_⟩
  have hset : D.Settled i s' s' := ⟨hs', fun j _ => D.refl j s'⟩
  cases r with
  | ok => exact ⟨heffect s' hs' hrely, hR s' hs' hrely⟩
  | throws => exact ⟨hset, fun s'' hs'' _ => hE s'' hs''⟩
  | throwsLate => exact ⟨heffect s' hs' hrely, fun s'' hs'' _ => hE s'' hs''⟩

/-- A computation: what follows is told of everything that others did around it. -/
theorem safe_compute {v : Option α} (h : D.Settled i s₀ s)
    (hR : ∀ a, v = some a → ∀ s', D.inv s' → D.rely i s s' → R a s' s')
    (hE : ∀ s', D.inv s' → E s' s') : Safe D i R E (compute v) s₀ s := by
  refine ⟨h, fun r s' hs' hrely => ?_⟩
  have hset : D.Settled i s' s' := ⟨hs', fun j _ => D.refl j s'⟩
  cases r with
  | ok =>
    refine ⟨hset, fun s'' hs'' hrely' => ?_⟩
    cases v with
    | none => exact hE s'' hs''
    | some a => exact hR a rfl s'' hs'' (D.trans hrely hrely')
  | throws => exact ⟨hset, fun s'' hs'' _ => hE s'' hs''⟩
  | throwsLate => exact ⟨hset, fun s'' hs'' _ => hE s'' hs''⟩

variable {t : Task σ α}

/-- An asynchronous call that is awaited. -/
theorem safe_called {R' : α → σ → σ → Prop}
    (ht : Safe D i (fun a s₀ s => D.Settled i s₀ s ∧
      ∀ s', D.inv s' → D.rely i s s' → R' a s' s')
      (fun s₀ s => D.Settled i s₀ s ∧ ∀ s', D.inv s' → D.rely i s s' → E s' s') t s₀ s) :
    Safe D i R' E (called t) s₀ s :=
  safe_bind (safe_tryCatch (Safe.mono (fun _ _ _ h => h) (fun _ _ h => h) ht))

/-! ### Facts of a task's own

Where the tasks do more to the state than one invariant can say, each keeps a fact of its own, which
no other task ends. -/

/-- The segment is settled, and `K` holds. -/
def Discipline.Fine (D : Discipline σ) (i : Nat) (K : σ → Prop) (s₀ s : σ) : Prop :=
  D.Settled i s₀ s ∧ K s

/-- Nobody else ends `K`. -/
def Discipline.Owns (D : Discipline σ) (i : Nat) (K : σ → Prop) : Prop :=
  ∀ s s', D.rely i s s' → K s → K s'

variable {K K' : σ → Prop}

/-- A change of the state that the task is free to make. -/
theorem Discipline.Fine.changed {s' : σ} (h : D.Fine i K s₀ s) (hinv : D.inv s → D.inv s')
    (hrely : ∀ j, j ≠ i → D.rely j s s') (hK : K s → K' s') : D.Fine i K' s₀ s' :=
  ⟨⟨hinv h.1.1, fun j hj => D.trans (h.1.2 j hj) (hrely j hj)⟩, hK h.2⟩

theorem Discipline.Fine.mono (h : D.Fine i K s₀ s) (hK : K s → K' s) : D.Fine i K' s₀ s :=
  ⟨h.1, hK h.2⟩

/-- After the task has waited. -/
theorem Discipline.Owns.fine (hown : D.Owns i K) (h : D.Fine i K s₀ s) {s' : σ} (hs' : D.inv s')
    (hrely : D.rely i s s') : D.Fine i K s' s' :=
  ⟨⟨hs', fun j _ => D.refl j s'⟩, hown s s' hrely h.2⟩

/-! The rules for a task that goes on after its first part. -/

theorem safe_seq {k : α → Task σ β} {R : β → σ → σ → Prop}
    (ht : Safe D i R' E t s₀ s) (hk : ∀ a s₀ s, R' a s₀ s → Safe D i R E (k a) s₀ s) :
    Safe D i R E (t >>= k) s₀ s :=
  safe_bind (Safe.mono hk (fun _ _ h => h) ht)

theorem safe_got {k : σ → Task σ β} {R : β → σ → σ → Prop} (hk : Safe D i R E (k s) s₀ s) :
    Safe D i R E (get >>= k) s₀ s := hk

theorem safe_modified {f : σ → σ} {k : Unit → Task σ β} {R : β → σ → σ → Prop}
    (hk : Safe D i R E (k ()) s₀ (f s)) : Safe D i R E (modify f >>= k) s₀ s := hk

theorem safe_caught {t h : Task σ α} (ht : Safe D i R E' t s₀ s)
    (hh : ∀ s₀ s, E' s₀ s → Safe D i R E h s₀ s) : Safe D i R E (tryCatch h t) s₀ s :=
  safe_tryCatch (Safe.mono (fun _ _ _ h => h) hh ht)

theorem safe_paused (hown : D.Owns i K) (h : D.Fine i K s₀ s)
    (ht : ∀ s, D.Fine i K s s → Safe D i R E t s s) : Safe D i R E (pause t) s₀ s :=
  ⟨h.1, fun s' hs' hrely => ht s' (hown.fine h hs' hrely)⟩

theorem safe_waited {next : Response → Task σ α} (hown : D.Owns i K) (h : D.Fine i K s₀ s)
    (ht : ∀ r s, D.Fine i K s s → Safe D i R E (next r) s s) : Safe D i R E (wait next) s₀ s :=
  ⟨h.1, fun r s' hs' hrely => ht r s' (hown.fine h hs' hrely)⟩

/-- An awaited operation that ends no fact of the task's own. -/
theorem safe_awaited {f : σ → α × σ} (hown : D.Owns i K) (h : D.Fine i K s₀ s)
    (heffect : ∀ s, D.Fine i K s s → D.Fine i K s (f s).2) :
    Safe D i (fun _ => D.Fine i K) (D.Fine i K) (await f) s₀ s := by
  refine safe_waited hown h fun r s hs => ?_
  cases r with
  | ok => exact safe_paused hown (heffect s hs) fun _ h => h
  | throws => exact safe_paused hown hs fun _ h => h
  | throwsLate => exact safe_paused hown (heffect s hs) fun _ h => h

theorem safe_calledFine {Q : α → σ → Prop} (hown : ∀ a, D.Owns i (Q a))
    (hown' : D.Owns i K) (ht : Safe D i (fun a => D.Fine i (Q a)) (D.Fine i K) t s₀ s) :
    Safe D i (fun a => D.Fine i (Q a)) (D.Fine i K) (called t) s₀ s :=
  safe_called (Safe.mono (fun a _ _ h => ⟨h.1, fun _ hs' hrely => (hown a).fine h hs' hrely⟩)
    (fun _ _ h => ⟨h.1, fun _ hs' hrely => hown'.fine h hs' hrely⟩) ht)

/-- A task over a component: if the task may change the component whenever `K` holds, it is safe,
whatever it does. -/
theorem safe_zoom {τ : Type} {view : σ → τ} {put : τ → σ → σ} (hown : D.Owns i K)
    (hput : ∀ c s₀ s, D.Fine i K s₀ s → D.Fine i K s₀ (put c s)) :
    ∀ {t : Task τ α} {s₀ s : σ}, D.Fine i K s₀ s →
      Safe D i (fun _ => D.Fine i K) (D.Fine i K) (zoom view put t) s₀ s
  | done _, _, _, h => h
  | failed, _, _, h => h
  | act f next, s₀, s, h => safe_zoom hown hput (t := next (view s)) (hput (f (view s)) s₀ s h)
  | wait next, _, _, h => safe_waited hown h fun r _ hs => safe_zoom hown hput (t := next r) hs
  | pause next, _, _, h => safe_paused hown h fun _ hs => safe_zoom hown hput (t := next) hs

/-- Whether the task returns or fails, the fact of its own holds. -/
def Keeping (D : Discipline σ) (i : Nat) (K : σ → Prop) (t : Task σ α) : Prop :=
  ∀ s₀ s, D.Fine i K s₀ s → Safe D i (fun _ => D.Fine i K) (D.Fine i K) t s₀ s

theorem Keeping.called (h : Keeping D i K t) (hown : D.Owns i K) :
    Keeping D i K (called t) := fun s₀ s hs =>
  safe_calledFine (fun _ => hown) hown (h s₀ s hs)

theorem Keeping.bind {k : α → Task σ β} (ht : Keeping D i K t)
    (hk : ∀ a, Keeping D i K (k a)) : Keeping D i K (t >>= k) := fun s₀ s hs =>
  safe_seq (ht s₀ s hs) fun a s₀ s h => hk a s₀ s h

theorem Keeping.tryCatch {t h : Task σ α} (ht : Keeping D i K t) (hh : Keeping D i K h) :
    Keeping D i K (tryCatch h t) := fun s₀ s hs =>
  safe_caught (ht s₀ s hs) fun s₀ s h => hh s₀ s h

theorem keeping_pure (a : α) : Keeping D i K (pure a : Task σ α) := fun _ _ h => h

/-- A computation ends no fact of the task's own, whether it yields something or fails. -/
theorem keeping_compute (hown : D.Owns i K) (v : Option α) :
    Keeping D i K (compute v : Task σ α) := by
  refine fun s₀ s hs => safe_waited hown hs fun r s hs => ?_
  cases r with
  | ok =>
    refine safe_paused hown hs fun s hs => ?_
    cases v with
    | none => exact hs
    | some a => exact hs
  | throws => exact safe_paused hown hs fun _ hs => hs
  | throwsLate => exact safe_paused hown hs fun _ hs => hs

/-- Every segment of the task is settled. -/
def Calm (D : Discipline σ) (i : Nat) : Task σ α → σ → σ → Prop :=
  Safe D i (fun _ => D.Settled i) (D.Settled i)

/-- A task that waits in the state `s` goes on calmly. -/
def Waits (D : Discipline σ) (i : Nat) (t : Task σ α) (s : σ) : Prop :=
  ∀ r s', D.inv s' → D.rely i s s' → Calm D i (t.resumed r) s' s'

theorem Discipline.settled_refl (hs : D.inv s) : D.Settled i s s := ⟨hs, fun j _ => D.refl j s⟩

/-- A calm task settles the segment it is in, and waits. -/
theorem Calm.advance : ∀ {t : Task σ α} {s₀ s : σ}, Calm D i t s₀ s →
    D.Settled i s₀ (t.advance s).1 ∧ Waits D i (t.advance s).2 (t.advance s).1
  | done _, _, _, h => ⟨h, fun _ _ hs' _ => Discipline.settled_refl hs'⟩
  | failed, _, _, h => ⟨h, fun _ _ hs' _ => Discipline.settled_refl hs'⟩
  | act f next, _, s, h => Calm.advance (t := next s) (s := f s) h
  | wait _, _, _, h => ⟨h.1, fun r s' hs' hrely => h.2 r s' hs' hrely⟩
  | pause _, _, _, h => ⟨h.1, fun _ s' hs' hrely => h.2 s' hs' hrely⟩

end Task

/-! ## Pools -/

/-- The tasks that are under way, each with its number, over one state. -/
structure Pool (σ : Type) where
  state : σ
  tasks : OrdMap Nat (Task σ Unit)
  started : Nat

namespace Pool

variable {σ : Type}

/-- What happens to a pool. A task is handed its number. -/
inductive Step (σ : Type) where
  | start (t : Nat → Task σ Unit)
  | resume (i : Nat) (r : Response)
  | elsewhere (f : σ → σ)
  | crash

/-- The task `i` runs until it waits or ends. -/
def advance (p : Pool σ) (i : Nat) (t : Task σ Unit) : Pool σ :=
  { p with state := (t.advance p.state).1, tasks := p.tasks.set i (t.advance p.state).2 }

/-- One step. A crash leaves what `reset` leaves. -/
def step (reset : σ → σ) (p : Pool σ) : Step σ → Pool σ
  | .start t => { p.advance p.started (t p.started) with started := p.started + 1 }
  | .resume i r =>
    match p.tasks.get? i with
    | some t => p.advance i (t.resumed r)
    | none => p
  | .elsewhere f => { p with state := f p.state }
  | .crash => { p with state := reset p.state, tasks := empty }

/-- A pool with nothing under way. -/
def idle (s : σ) : Pool σ := ⟨s, empty, 0⟩

/-- The invariant holds, and every task waits. -/
structure Calm (D : Task.Discipline σ) (p : Pool σ) : Prop where
  inv : D.inv p.state
  waits : ∀ i t, p.tasks.get? i = some t → t.Waits D i p.state

variable {D : Task.Discipline σ} {reset : σ → σ} {p : Pool σ}

theorem calm_of_empty (hs : D.inv p.state) (hp : p.tasks = empty) : Calm D p where
  inv := hs
  waits i t h := by
    rw [hp] at h
    exact absurd h (by simp)

theorem calm_idle {s : σ} (hs : D.inv s) : Calm D (idle s) := calm_of_empty hs rfl

/-- A calm task may run. -/
theorem Calm.advance (h : Calm D p) {i : Nat} {t : Task σ Unit} (ht : t.Calm D i p.state p.state) :
    Calm D (p.advance i t) where
  inv := ht.advance.1.1
  waits j t' hj := by
    have hget : (p.tasks.set i (t.advance p.state).2).get? j = some t' := hj
    rw [get?_set] at hget
    by_cases hij : j = i
    · rw [if_pos hij] at hget
      rw [hij, ← Option.some_inj.1 hget]
      exact ht.advance.2
    · rw [if_neg hij] at hget
      -- what another task relied on still holds
      exact fun r s' hs' hrely => h.waits j t' hget r s' hs' (D.trans (ht.advance.1.2 j hij) hrely)

/-- The steps that a discipline allows: safe tasks are started, and what happens elsewhere,
or in a crash, respects it. -/
def Step.Allowed (D : Task.Discipline σ) : Step σ → Prop
  | .start t => ∀ i s, D.inv s → (t i).Calm D i s s
  | .resume _ _ => True
  | .elsewhere f => ∀ s, D.inv s → D.inv (f s) ∧ ∀ i, D.rely i s (f s)
  | .crash => True

/-- The same for tasks that each find `F` when they start. -/
def Step.AllowedWhere (D : Task.Discipline σ) (F : Nat → σ → Prop) : Step σ → Prop
  | .start t => ∀ i s, D.inv s → F i s → (t i).Calm D i s s
  | .resume _ _ => True
  | .elsewhere f => ∀ s, D.inv s → D.inv (f s) ∧ ∀ i, D.rely i s (f s)
  | .crash => True

/-- The pool is calm, and `F` holds of every number that is not taken. -/
structure Ready (D : Task.Discipline σ) (F : Nat → σ → Prop) (p : Pool σ) : Prop where
  calm : Calm D p
  numbered : ∀ i t, p.tasks.get? i = some t → i < p.started
  fresh : ∀ i, p.started ≤ i → F i p.state

variable {F : Nat → σ → Prop}

/-- What is true of the number of a task that never started is what the others keep up for it. -/
theorem Ready.step (hF : ∀ i, D.Owns i (F i))
    (hreset : ∀ s, D.inv s → D.inv (reset s) ∧ ∀ i, F i (reset s)) (h : Ready D F p) {a : Step σ}
    (ha : a.AllowedWhere D F) : Ready D F (step reset p a) := by
  cases a with
  | start t =>
    have hcalm := ha p.started p.state h.calm.inv (h.fresh p.started (Nat.le_refl _))
    have hrun := h.calm.advance hcalm
    refine ⟨⟨hrun.inv, hrun.waits⟩, fun i t' ht' => ?_, fun i hi => ?_⟩
    · have hget : (p.tasks.set p.started ((t p.started).advance p.state).2).get? i = some t' := ht'
      by_cases hi : i = p.started
      · exact hi ▸ Nat.lt_succ_self _
      · rw [get?_set, if_neg hi] at hget
        exact Nat.lt_succ_of_lt (h.numbered i t' hget)
    · have hle : p.started < i := hi
      exact hF i _ _ (hcalm.advance.1.2 i (by omega)) (h.fresh i (by omega))
  | resume i r =>
    show Ready D F (match p.tasks.get? i with
      | some t => p.advance i (t.resumed r)
      | none => p)
    cases ht : p.tasks.get? i with
    | none => exact h
    | some t =>
      have hi := h.numbered i t ht
      have hcalm := h.calm.waits i t ht r p.state h.calm.inv (D.refl i p.state)
      refine ⟨h.calm.advance hcalm, fun j t' ht' => ?_, fun j hj => ?_⟩
      · have hget : (p.tasks.set i ((t.resumed r).advance p.state).2).get? j = some t' := ht'
        by_cases hij : j = i
        · exact hij ▸ hi
        · rw [get?_set, if_neg hij] at hget
          exact h.numbered j t' hget
      · have hle : p.started ≤ j := hj
        exact hF j _ _ (hcalm.advance.1.2 j (by omega)) (h.fresh j hle)
  | elsewhere f =>
    have hf := ha p.state h.calm.inv
    refine ⟨⟨hf.1, fun i t ht r s' hs' hrely => ?_⟩, h.numbered, fun i hi => ?_⟩
    · exact h.calm.waits i t ht r s' hs' (D.trans (hf.2 i) hrely)
    · exact hF i _ _ (hf.2 i) (h.fresh i hi)
  | crash =>
    have hr := hreset p.state h.calm.inv
    refine ⟨calm_of_empty hr.1 rfl, fun i t ht => ?_, fun i _ => hr.2 i⟩
    have hget : (empty : OrdMap Nat (Task σ Unit)).get? i = some t := ht
    exact absurd hget (by simp)

/-- **The invariant of a discipline** holds throughout every run of tasks that are safe where `F`
holds of them when they start. -/
theorem run_inv_where (hF : ∀ i, D.Owns i (F i))
    (hreset : ∀ s, D.inv s → D.inv (reset s) ∧ ∀ i, F i (reset s)) {s : σ} (hs : D.inv s)
    (hfresh : ∀ i, F i s) (steps : List (Step σ)) (hsteps : ∀ a ∈ steps, a.AllowedWhere D F) :
    D.inv (Runs.run (step reset) (idle s) steps).state := by
  have hready : ∀ (steps : List (Step σ)) (p : Pool σ), Ready D F p →
      (∀ a ∈ steps, a.AllowedWhere D F) → Ready D F (Runs.run (step reset) p steps) := by
    intro steps
    induction steps with
    | nil => exact fun p hp _ => hp
    | cons a steps ih =>
      intro p hp ha
      rw [Runs.run_cons]
      refine ih _ (hp.step hF hreset (ha a List.mem_cons_self)) fun b hb => ?_
      exact ha b (List.mem_cons_of_mem a hb)
  have hidle : Ready D F (idle s) :=
    ⟨calm_idle hs, fun i t ht => absurd ht (by simp [idle]), fun i _ => hfresh i⟩
  exact (hready steps (idle s) hidle hsteps).calm.inv

/-- The same for tasks that are safe wherever they start. -/
theorem run_inv (hreset : ∀ s, D.inv s → D.inv (reset s)) {s : σ} (hs : D.inv s)
    (steps : List (Step σ)) (hsteps : ∀ a ∈ steps, a.Allowed D) :
    D.inv (Runs.run (step reset) (idle s) steps).state := by
  refine run_inv_where (F := fun _ _ => True) (fun _ _ _ _ h => h)
    (fun s hs => ⟨hreset s hs, fun _ => trivial⟩) hs (fun _ => trivial) steps fun a ha => ?_
  have h := hsteps a ha
  cases a with
  | start t => exact fun i s hs _ => h i s hs
  | resume i r => trivial
  | elsewhere f => exact h
  | crash => trivial

end Pool

end RezChat
