/-
Texts as lists of characters.

What a text is cut into at a separator, and where a pattern first stands in it. For a single
character the first piece is what comes before the first place where it stands.
-/
import Mathlib.Data.List.Basic

set_option autoImplicit false

namespace RezChat.Texts

open List

universe u

variable {α : Type u} [DecidableEq α]

/-- The text before the first place where `pattern` stands, and the one behind it. -/
def cut (pattern : List α) : List α → Option (List α × List α)
  | [] => if pattern = [] then some ([], []) else none
  | c :: s =>
    if pattern <+: c :: s then some ([], (c :: s).drop pattern.length)
    else (cut pattern s).map fun (before, after) => (c :: before, after)

variable {pattern s before after : List α}

theorem eq_append_of_cut : ∀ {s before : List α}, cut pattern s = some (before, after) →
    s = before ++ pattern ++ after
  | [], before, h => by
    rw [cut] at h
    split at h
    · next hnil =>
      cases h
      rw [hnil]
      rfl
    · cases h
  | c :: s, before, h => by
    rw [cut] at h
    split at h
    · next hprefix =>
      cases h
      obtain ⟨rest, hrest⟩ := hprefix
      rw [← hrest, drop_left, nil_append]
    · obtain ⟨⟨b, a⟩, hcut, heq⟩ := Option.map_eq_some_iff.1 h
      cases heq
      rw [eq_append_of_cut hcut]
      rfl

theorem cut_of_isPrefix (h : pattern <+: s) : cut pattern s = some ([], s.drop pattern.length) := by
  cases s with
  | nil =>
    rw [prefix_nil.1 h]
    exact if_pos rfl
  | cons c s => exact if_pos h

/-- The first piece is what stands before the first separator. -/
theorem splitOn_eq_cons (a : α) (s : List α) :
    ∃ rest, s.splitOn a = s.takeWhile (· ≠ a) :: rest := by
  induction s with
  | nil => exact ⟨[], rfl⟩
  | cons c s ih =>
    obtain ⟨rest, hrest⟩ := ih
    rw [splitOn_cons_eq_if_modifyHead]
    by_cases hc : c = a
    · rw [if_pos (beq_iff_eq.2 hc), takeWhile_cons_of_neg (by simp [hc])]
      exact ⟨_, rfl⟩
    · rw [if_neg (by simp [hc]), hrest, takeWhile_cons_of_pos (by simp [hc])]
      exact ⟨rest, rfl⟩

/-- What comes behind a separator does not change what stands before the first one. -/
theorem takeWhile_append_cons (a : α) (s t : List α) :
    (s ++ a :: t).takeWhile (· ≠ a) = s.takeWhile (· ≠ a) := by
  induction s with
  | nil => exact takeWhile_cons_of_neg (by simp)
  | cons c s ih =>
    by_cases hc : c = a
    · rw [cons_append, takeWhile_cons_of_neg (by simp [hc]),
        takeWhile_cons_of_neg (by simp [hc])]
    · rw [cons_append, takeWhile_cons_of_pos (by simp [hc]),
        takeWhile_cons_of_pos (by simp [hc]), ih]

theorem takeWhile_of_notMem {a : α} (h : a ∉ s) : s.takeWhile (· ≠ a) = s := by
  induction s with
  | nil => rfl
  | cons c s ih =>
    rw [mem_cons, not_or] at h
    have hc : c ≠ a := Ne.symm h.1
    rw [takeWhile_cons_of_pos (by simp [hc]), ih h.2]

end RezChat.Texts
