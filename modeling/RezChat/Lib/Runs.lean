/-
Runs of a system that takes one step after another.

A system is a step function over states and inputs; a run is the list of the
inputs it was given. Two things are wanted of runs everywhere below: that an
invariant kept by every step holds at the end of every run, and the same for
the runs whose every step meets a condition on the state it is taken in.
-/
import Mathlib.Data.List.Basic

set_option autoImplicit false

namespace RezChat

namespace Runs

variable {σ ι : Type} (step : σ → ι → σ)

/-- The state after the inputs `is`. -/
def run (s : σ) (is : List ι) : σ := is.foldl step s

@[simp] theorem run_nil (s : σ) : run step s [] = s := rfl

@[simp] theorem run_cons (s : σ) (i : ι) (is : List ι) :
    run step s (i :: is) = run step (step s i) is := rfl

theorem run_append (s : σ) (is js : List ι) :
    run step s (is ++ js) = run step (run step s is) js := by
  rw [run, List.foldl_append]; rfl

/-- A run on inputs that are each translated first. -/
theorem run_map {κ : Type} (f : κ → ι) (s : σ) (is : List κ) :
    run step s (is.map f) = run (fun s i => step s (f i)) s is := List.foldl_map

/-- Every step of the run meets the condition `ok` in the state it is taken
in. -/
def Meets (ok : σ → ι → Prop) : σ → List ι → Prop
  | _, [] => True
  | s, i :: is => ok s i ∧ Meets ok (step s i) is

instance decidableMeets (ok : σ → ι → Prop) [∀ s i, Decidable (ok s i)] :
    ∀ (s : σ) (is : List ι), Decidable (Meets step ok s is)
  | _, [] => isTrue trivial
  | s, i :: is =>
    have := decidableMeets ok (step s i) is
    inferInstanceAs (Decidable (ok s i ∧ Meets step ok (step s i) is))

theorem meets_true : ∀ (is : List ι) (s : σ), Meets step (fun _ _ => True) s is
  | [], _ => trivial
  | i :: is, s => ⟨trivial, meets_true is (step s i)⟩

variable {ok : σ → ι → Prop}

/-- A condition that each input of the run meets in every state. -/
theorem meets_of_forall :
    ∀ (is : List ι) (s : σ), (∀ i ∈ is, ∀ s, ok s i) → Meets step ok s is
  | [], _, _ => trivial
  | i :: is, s, h =>
    ⟨h i List.mem_cons_self s, meets_of_forall is (step s i) fun j hj =>
      h j (List.mem_cons_of_mem i hj)⟩

/-- A weaker condition is met by the same runs. -/
theorem Meets.mono {ok ok' : σ → ι → Prop} (h : ∀ s i, ok s i → ok' s i) :
    ∀ (is : List ι) {s : σ}, Meets step ok s is → Meets step ok' s is
  | [], _, _ => trivial
  | _ :: is, _, hm => ⟨h _ _ hm.1, Meets.mono h is hm.2⟩

/-- Two conditions that are met by the same run. -/
theorem Meets.and {ok ok' : σ → ι → Prop} :
    ∀ (is : List ι) {s : σ}, Meets step ok s is → Meets step ok' s is →
      Meets step (fun s i => ok s i ∧ ok' s i) s is
  | [], _, _, _ => trivial
  | _ :: is, _, h, h' => ⟨⟨h.1, h'.1⟩, Meets.and is h.2 h'.2⟩

variable {I : σ → Prop}

/-- **Invariants of guarded runs.** What every step that meets the condition
keeps holds after every run whose steps all meet it. -/
theorem invariant
    (keeps : ∀ s i, I s → ok s i → I (step s i)) :
    ∀ (is : List ι) (s : σ), I s → Meets step ok s is → I (run step s is)
  | [], _, h, _ => h
  | i :: is, s, h, hm => invariant keeps is (step s i) (keeps s i h hm.1) hm.2

/-- **Invariants.** What every step keeps holds after every run. -/
theorem invariant_all (keeps : ∀ s i, I s → I (step s i)) (is : List ι)
    (s : σ) (h : I s) : I (run step s is) :=
  invariant step (fun s i hs (_ : True) => keeps s i hs) is s h
    (meets_true step is s)

/-- **Laws of steps.** What the invariant and the condition give of every step
holds of every step of a run. -/
theorem meets_of_invariant {ok law : σ → ι → Prop}
    (keeps : ∀ s i, I s → ok s i → I (step s i)) (gives : ∀ s i, I s → ok s i → law s i) :
    ∀ (is : List ι) (s : σ), I s → Meets step ok s is → Meets step law s is
  | [], _, _, _ => trivial
  | i :: is, s, h, hm =>
    ⟨gives s i h hm.1, meets_of_invariant keeps gives is (step s i) (keeps s i h hm.1) hm.2⟩

variable {P : σ → Prop}

/-- **Exact conditions.** A property that a step keeps exactly when it meets the condition holds
after a run exactly when it held before and every step meets the condition. -/
theorem meets_iff
    (exact : ∀ s i, P (step s i) ↔ P s ∧ ok s i) :
    ∀ (is : List ι) (s : σ), P (run step s is) ↔ P s ∧ Meets step ok s is
  | [], _ => ⟨fun h => ⟨h, trivial⟩, fun h => h.1⟩
  | i :: is, s => by
    rw [run_cons, meets_iff exact is (step s i), exact s i, and_assoc]
    rfl

/-- Where a property holds throughout a run, every step meets what it takes to keep it. -/
theorem meets_of_throughout
    (needs : ∀ s i, P s → P (step s i) → ok s i) :
    ∀ (is : List ι) (s : σ), (∀ n, P (run step s (is.take n))) → Meets step ok s is
  | [], _, _ => trivial
  | i :: is, s, h =>
    ⟨needs s i (h 0) (h 1), meets_of_throughout needs is (step s i) fun n => h (n + 1)⟩

/-- A property that each step keeps exactly when it meets the condition holds throughout a run
exactly when every step meets it. -/
theorem throughout_iff
    (exact : ∀ s i, P s → (P (step s i) ↔ ok s i)) :
    ∀ (is : List ι) (s : σ), P s → ((∀ n, P (run step s (is.take n))) ↔ Meets step ok s is)
  | [], s, hs => ⟨fun _ => trivial, fun _ n => by rw [List.take_nil]; exact hs⟩
  | i :: is, s, hs => by
    constructor
    · exact meets_of_throughout step (fun s i hs => (exact s i hs).1) (i :: is) s
    · rintro ⟨hok, hrest⟩ n
      have hstep : P (step s i) := (exact s i hs).2 hok
      cases n with
      | zero => exact hs
      | succ n => exact (throughout_iff exact is (step s i) hstep).2 hrest n

/-- The first part of a run that meets a condition meets it. -/
theorem Meets.of_append :
    ∀ (is js : List ι) {s : σ}, Meets step ok s (is ++ js) → Meets step ok s is
  | [], _, _, _ => trivial
  | _ :: is, js, _, h => ⟨h.1, Meets.of_append is js h.2⟩

/-- So does the rest of it, from the state the first part leaves. -/
theorem Meets.of_append_right {js : List ι} :
    ∀ (is : List ι) {s : σ}, Meets step ok s (is ++ js) → Meets step ok (run step s is) js
  | [], _, h => h
  | _ :: is, _, h => Meets.of_append_right is h.2

/-- Each step of a run meets the condition in the state it is taken in. -/
theorem Meets.step_of_append {i : ι} {js : List ι} (is : List ι) {s : σ}
    (h : Meets step ok s (is ++ i :: js)) : ok (run step s is) i :=
  (Meets.of_append_right step is h).1

/-- What holds after every guarded run holds in every state a guarded run goes
through. -/
theorem throughout {s : σ}
    (h : ∀ is, Meets step ok s is → P (run step s is)) (is : List ι)
    (hm : Meets step ok s is) (n : Nat) : P (run step s (is.take n)) := by
  refine h _ (Meets.of_append step (is.take n) (is.drop n) ?_)
  rwa [List.take_append_drop]

end Runs

/-! ## Side by side -/

namespace Runs

variable {κ σ ι : Type} [DecidableEq κ] (step : κ → σ → ι → σ)

/-- Many systems side by side: an input is for one of them. -/
def stepAt (s : κ → σ) (i : κ × ι) : κ → σ :=
  fun k => if k = i.1 then step k (s k) i.2 else s k

/-- What one of them was given. -/
def inputsOf (k : κ) : List (κ × ι) → List ι
  | [] => []
  | i :: is => if k = i.1 then i.2 :: inputsOf k is else inputsOf k is

/-- A run of all of them is a run of each. -/
theorem run_stepAt (k : κ) : ∀ (is : List (κ × ι)) (s : κ → σ),
    run (stepAt step) s is k = run (step k) (s k) (inputsOf k is)
  | [], _ => rfl
  | i :: is, s => by
    rw [run_cons, run_stepAt k is, stepAt, inputsOf]
    by_cases hk : k = i.1
    · rw [if_pos hk, if_pos hk]
      rfl
    · rw [if_neg hk, if_neg hk]

/-- A condition on the steps of all of them is one on the steps of each. -/
theorem meets_stepAt (ok : κ → σ → ι → Prop) (k : κ) : ∀ (is : List (κ × ι)) (s : κ → σ),
    Meets (stepAt step) (fun s i => ok i.1 (s i.1) i.2) s is →
      Meets (step k) (ok k) (s k) (inputsOf k is)
  | [], _, _ => trivial
  | i :: is, s, h => by
    have hrest := meets_stepAt ok k is (stepAt step s i) h.2
    rw [stepAt] at hrest
    rw [inputsOf]
    by_cases hk : k = i.1
    · rw [if_pos hk] at hrest ⊢
      refine ⟨?_, hrest⟩
      rw [hk]
      exact h.1
    · rw [if_neg hk] at hrest ⊢
      exact hrest

end Runs

end RezChat
