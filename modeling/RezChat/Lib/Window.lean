/-
Sliding windows.

A limiter admits at most so many things in any window of a certain length. It remembers the
times of those it admitted, forgets the ones that no later window can reach, and counts the
rest. Whether what it remembers is enough is a question about the clock: a time that is out
of the window now is out of every window to come only if the clock does not go back.

Counts are taken in the list of everything that was ever admitted, so that nothing is said here
of the order in which a limiter keeps its times.

Another limiter keeps two things of one kind apart. It remembers for each kind when the last one
was, and may forget a time once a thing of that kind would be far enough from it.
-/
import RezChat.Lib.OrdMap
import Mathlib.Data.List.Count
import Mathlib.Data.Int.Order.Basic
import Mathlib.Data.Int.Cast.Basic

set_option autoImplicit false

namespace RezChat

open List

namespace Window

variable {w : Int} {clock n : Int} {log times : List Int}

/-- The time `t` is in the window of length `w` that ends at `n`. -/
def recent (w n t : Int) : Bool := decide (n - t < w)

/-- The times that count, now or later, are the ones that are remembered. -/
def Remembers (w clock : Int) (log times : List Int) : Prop :=
  ∀ n, clock ≤ n → log.countP (recent w n) = times.countP (recent w n)

/-- There are at most `cap` times in any window. -/
def Bounded (w : Int) (cap : Nat) (log : List Int) : Prop :=
  ∀ t₀, log.countP (fun t => decide (t₀ ≤ t ∧ t < t₀ + w)) ≤ cap

section

variable (h : Remembers w clock log times)
include h

theorem Remembers.later (hn : clock ≤ n) :
    Remembers w n log times := fun _ hm => h _ (Int.le_trans hn hm)

/-- Forgetting what is out of the window. -/
theorem Remembers.prune (hn : clock ≤ n) :
    Remembers w n log (times.filter (recent w n)) := by
  intro m hm
  rw [h m (Int.le_trans hn hm), countP_filter]
  refine countP_congr fun t _ => ?_
  unfold recent
  rw [Bool.and_eq_true, decide_eq_true_iff, decide_eq_true_iff]
  constructor
  · intro ht
    exact ⟨ht, by omega⟩
  · exact fun ht => ht.1

theorem Remembers.record (t : Int) :
    Remembers w clock (t :: log) (times ++ [t]) := by
  intro m hm
  rw [countP_cons, List.countP_append, countP_singleton, h m hm]

end

theorem bounded_nil (w : Int) (cap : Nat) : Bounded w cap [] := fun _ => Nat.zero_le _

/-- **Recording.** A time is admitted, if fewer than `cap` are in the window that ends at it. -/
theorem Bounded.record {cap : Nat} (h : Bounded w cap log)
    (hcount : log.countP (recent w n) < cap) : Bounded w cap (n :: log) := by
  intro t₀
  rw [countP_cons]
  by_cases hin : t₀ ≤ n ∧ n < t₀ + w
  · -- whatever else is in this window is in the one that ends at `n`
    have hsub : log.countP (fun t => decide (t₀ ≤ t ∧ t < t₀ + w)) ≤
        log.countP (recent w n) := by
      refine countP_mono_left fun t _ ht => ?_
      rw [decide_eq_true_iff] at ht
      exact decide_eq_true (by omega)
    rw [if_pos (decide_eq_true hin)]
    omega
  · rw [if_neg (by rw [decide_eq_true_iff]; exact hin)]
    exact h t₀

/-- Several windows in a row, up to the latest time. -/
theorem Bounded.span {cap : Nat} (h : Bounded w cap log) (hn : ∀ t ∈ log, t ≤ n) :
    ∀ k : Nat, log.countP (recent (k * w) n) ≤ k * cap
  | 0 => by
    have hnone : log.countP (recent (0 * w) n) = 0 := by
      rw [countP_eq_zero]
      intro t ht
      have := hn t ht
      unfold recent
      rw [decide_eq_true_iff]
      omega
    rw [Int.natCast_zero, hnone]
    exact Nat.zero_le _
  | k + 1 => by
    have hk := Bounded.span h hn k
    have hlast := h (n - (k + 1 : Int) * w + 1)
    have hsplit : log.countP (recent ((k + 1 : Nat) * w) n) ≤
        log.countP (recent (k * w) n) + log.countP
          (fun t => decide (n - (k + 1 : Int) * w + 1 ≤ t ∧ t < n - (k + 1 : Int) * w + 1 + w)) := by
      have hmul : ((k + 1 : Nat) : Int) * w = (k : Int) * w + w := by
        rw [Int.natCast_succ, Int.add_mul, Int.one_mul]
      clear hk hlast
      induction log with
      | nil => exact Nat.le_refl _
      | cons t log ih =>
        have hrest := ih (fun t₀ => Nat.le_trans (by
          rw [countP_cons]
          exact Nat.le_add_right _ _) (h t₀)) (fun t ht => hn t (mem_cons_of_mem _ ht))
        rw [countP_cons, countP_cons, countP_cons]
        have htime : recent ((k + 1 : Nat) * w) n t = true →
            recent (k * w) n t = true ∨ decide (n - (k + 1 : Int) * w + 1 ≤ t ∧
              t < n - (k + 1 : Int) * w + 1 + w) = true := by
          unfold recent
          rw [decide_eq_true_iff, decide_eq_true_iff, decide_eq_true_iff]
          have hmul' : ((k : Int) + 1) * w = (k : Int) * w + w := by
            rw [Int.add_mul, Int.one_mul]
          rw [hmul, hmul']
          omega
        split_ifs with h₁ h₂ h₃ <;> first | omega | (rcases htime h₁ with h | h <;> contradiction)
    have hmul : (k + 1) * cap = k * cap + cap := Nat.succ_mul k cap
    omega

/-! ## A time for each key -/

section Keys

variable {κ : Type} {m m' : OrdMap κ Int} {log : List (κ × Int)} {gap : Int}

/-- Times of one key are `gap` apart. The latest comes first. -/
def Apart (gap : Int) (log : List (κ × Int)) : Prop :=
  log.Pairwise fun later earlier => later.1 = earlier.1 → earlier.2 + gap ≤ later.2

variable {k : κ} {t : Int}

theorem Apart.cons (h : Apart gap log) (hall : ∀ t', (k, t') ∈ log → t' + gap ≤ t) :
    Apart gap ((k, t) :: log) := by
  refine pairwise_cons.2 ⟨fun e he hk => ?_, h⟩
  obtain ⟨k', t'⟩ := e
  refine hall t' ?_
  rwa [show k = k' from hk]

variable [DecidableEq κ]

/-- What is in the window is remembered: its key has a time that is not earlier. -/
def Covers (w clock : Int) (m : OrdMap κ Int) (log : List (κ × Int)) : Prop :=
  ∀ k t, (k, t) ∈ log → clock - t < w → ∃ t', m.get? k = some t' ∧ t ≤ t'

theorem covers_nil : Covers w clock m [] := fun _ _ h => by cases h

section

variable (h : Covers w clock m log)
include h

theorem Covers.later (hn : clock ≤ n) : Covers w n m log :=
  fun k t hmem hwin => h k t hmem (by omega)

/-- A map that keeps the times in the window covers the same. -/
theorem Covers.kept
    (hkeep : ∀ k t, m.get? k = some t → clock - t < w → m'.get? k = some t) :
    Covers w clock m' log := by
  intro k t hmem hwin
  obtain ⟨t', hget, hle⟩ := h k t hmem hwin
  exact ⟨t', hkeep k t' hget (by omega), hle⟩

/-- The time of a key is written, later than all of the key before. -/
theorem Covers.write (hlast : ∀ t', (k, t') ∈ log → t' ≤ t) :
    Covers w clock (m.set k t) ((k, t) :: log) := by
  intro k' t' hmem hwin
  rw [OrdMap.get?_set]
  by_cases hk : k' = k
  · rw [if_pos hk]
    refine ⟨t, rfl, ?_⟩
    rcases mem_cons.1 hmem with heq | hold
    · rw [(Prod.mk.inj heq).2]
    · rw [hk] at hold
      exact hlast t' hold
  · rw [if_neg hk]
    rcases mem_cons.1 hmem with heq | hold
    · exact absurd (Prod.mk.inj heq).1 hk
    · exact h k' t' hold hwin

/-- **Gaps.** If the time that is remembered of a key is `gap` ago, then so are all. -/
theorem Covers.apart (hgap : gap ≤ w)
    (hm : ∀ t, m.get? k = some t → t + gap ≤ clock) (hmem : (k, t) ∈ log) : t + gap ≤ clock := by
  by_cases hwin : clock - t < w
  · obtain ⟨t', hget, hle⟩ := h k t hmem hwin
    have := hm t' hget
    omega
  · omega

end

/-- A map of times that are all of a log, and in a window, is as small as the window. -/
theorem size_le_countP (hm : ∀ k t, m.get? k = some t → (k, t) ∈ log ∧ n - t < w) :
    m.size ≤ (log.map Prod.snd).countP (recent w n) := by
  rw [countP_map, countP_eq_length_filter]
  have hnodup : m.entries.Nodup := List.Nodup.of_map Prod.fst m.nodup
  refine (subperm_of_subset hnodup fun e he => ?_).length_le
  have hget := hm e.1 e.2 (OrdMap.mem_entries_iff.1 he)
  exact mem_filter.2 ⟨hget.1, decide_eq_true hget.2⟩

end Keys

end Window

end RezChat
