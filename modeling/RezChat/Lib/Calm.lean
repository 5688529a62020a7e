/-
Runs in which nothing fails.

Most statements about a procedure quantify over the fates of its awaits. Some are about what it
does when everything goes well: which row it writes, and what it returns. For these a procedure is
run on the empty list of fates, and there is one rule for each way a procedure is built.
-/
import RezChat.Lib.Async

set_option autoImplicit false

namespace RezChat

namespace Proc

variable {σ τ α β : Type}

/-- Where nothing fails, the procedure returns `a` and leaves `s'`. -/
def Yields (p : Proc σ α) (s : σ) (a : α) (s' : σ) : Prop := p [] s = ⟨.returned a, s', []⟩

variable {p : Proc σ α} {s s' s'' : σ} {a : α} {b : β}

theorem yields_pure (a : α) (s : σ) : Yields (pure a) s a s := rfl

theorem yields_get (s : σ) : Yields get s s s := rfl

theorem yields_modify (f : σ → σ) (s : σ) : Yields (modify f) s () (f s) := rfl

theorem yields_await (f : σ → α × σ) (s : σ) : Yields (await f) s (f s).1 (f s).2 := rfl

/-- A procedure goes on where its first part ended. -/
theorem Yields.bind_eq (h : Yields p s a s') (k : α → Proc σ β) : (p >>= k) [] s = k a [] s' := by
  show andThen p k [] s = _
  rw [andThen, h]

theorem Yields.bind (h : Yields p s a s') {k : α → Proc σ β} (hk : Yields (k a) s' b s'') :
    Yields (p >>= k) s b s'' := (h.bind_eq k).trans hk

/-- What does not throw is not caught. -/
theorem Yields.tryCatch (h : Yields p s a s') (q : Proc σ α) : Yields (tryCatch p q) s a s' := by
  show Proc.tryCatch p q [] s = _
  rw [Proc.tryCatch, h]

/-- The same under a handler. -/
theorem Yields.tryCatch_bind_eq (h : Yields p s a s') (k : α → Proc σ β) (q : Proc σ β) :
    Proc.tryCatch (p >>= k) q [] s = Proc.tryCatch (k a) q [] s' := by
  rw [Proc.tryCatch, Proc.tryCatch, h.bind_eq]

/-- Two procedures that end alike are gone on with alike. -/
theorem bind_congr_calm {q : Proc σ α} (h : p [] s = q [] s') (k : α → Proc σ β) :
    (p >>= k) [] s = (q >>= k) [] s' := by
  show andThen p k [] s = andThen q k [] s'
  rw [andThen, andThen, h]

theorem Yields.zoom {view : σ → τ} {put : τ → σ → σ} {q : Proc τ α} {t : τ}
    (h : Yields q (view s) a t) : Yields (zoom view put q) s a (put t s) := by
  show Proc.zoom view put q [] s = _
  rw [Proc.zoom, h]

/-- What is done with a result alone leaves the state as it is. -/
theorem state_bind_pure (p : Proc σ α) (f : α → β) (s : σ) :
    ((p >>= fun a => pure (f a)) [] s).state = (p [] s).state := by
  show (andThen p (fun a => ret (f a)) [] s).state = _
  rw [andThen]
  generalize p [] s = e
  obtain ⟨a | _ | _, s', fates⟩ := e <;> rfl

/-- What every run keeps, the run without failures keeps. -/
theorem Keeps.calm {I : σ → Prop} {Q : α → Prop} (h : Keeps I p Q) (hs : I s) : I (p [] s).state :=
  wp_ending (wp_imp (h.wp hs) (fun _ _ ha => ha.1)) []

end Proc

end RezChat
