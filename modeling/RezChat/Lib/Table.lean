/-
Tables: lists that are read and written by index, and only grow at the end.

What is in a table after one entry was written, or one was added, is what was in it before, or the
new entry.
-/
import Mathlib.Data.List.Basic

set_option autoImplicit false

namespace RezChat

open List

namespace Table

variable {α : Type} {l : List α} {a b : α} {j k : Nat}

theorem getElem_set (h : (l.set k a)[j]? = some b) : (j = k ∧ b = a) ∨ (j ≠ k ∧ l[j]? = some b) := by
  by_cases hkj : k = j
  · subst hkj
    rw [getElem?_set_self'] at h
    cases hget : l[k]? with
    | none => rw [hget] at h; simp at h
    | some c => rw [hget] at h; exact .inl ⟨rfl, by simpa using h.symm⟩
  · rw [getElem?_set_ne hkj] at h
    exact .inr ⟨fun hjk => hkj hjk.symm, h⟩

theorem getElem_append (h : (l ++ [a])[j]? = some b) :
    (j = l.length ∧ b = a) ∨ (j < l.length ∧ l[j]? = some b) := by
  by_cases hj : j < l.length
  · rw [getElem?_append_left hj] at h
    exact .inr ⟨hj, h⟩
  · rw [getElem?_append_right (Nat.le_of_not_lt hj), getElem?_singleton] at h
    by_cases hzero : j - l.length = 0
    · rw [if_pos hzero] at h
      exact .inl ⟨by omega, (Option.some_inj.1 h).symm⟩
    · rw [if_neg hzero] at h
      cases h

/-- The entry that was written is read back. -/
theorem set_self (h : l[k]? = some b) : (l.set k a)[k]? = some a := by
  rw [getElem?_set_self', h]
  rfl

/-- The others are as they were. -/
theorem set_other (hjk : j ≠ k) (h : l[j]? = some b) : (l.set k a)[j]? = some b := by
  rw [getElem?_set_ne (fun hkj => hjk hkj.symm), h]

theorem set_same (h : l[k]? = some a) : l.set k a = l := by
  obtain ⟨hlt, rfl⟩ := List.getElem?_eq_some_iff.1 h
  exact set_getElem_self hlt

theorem append_left (h : l[j]? = some b) : (l ++ [a])[j]? = some b := by
  rw [getElem?_append_left (List.getElem?_eq_some_iff.1 h).1, h]

theorem append_self : (l ++ [a])[l.length]? = some a := getElem?_concat_length

theorem mem_set (h : b ∈ l.set k a) : b ∈ l ∨ b = a := mem_or_eq_of_mem_set h

theorem mem_append (h : b ∈ l ++ [a]) : b ∈ l ∨ b = a := by
  rcases List.mem_append.1 h with hold | hnew
  · exact .inl hold
  · exact .inr (mem_singleton.1 hnew)

/-- An entry that differs from the one that was overwritten is still there. -/
theorem mem_set_of_ne {c : α} (hc : l[k]? = some c) (hb : b ∈ l) (hne : b ≠ c) :
    b ∈ l.set k a := by
  obtain ⟨j, hj⟩ := mem_iff_getElem?.1 hb
  have hjk : j ≠ k := fun hjk => hne (Option.some_inj.1 ((hjk ▸ hj).symm.trans hc))
  exact mem_of_getElem? (set_other hjk hj)

theorem mem_set_self (h : l[k]? = some b) : a ∈ l.set k a := mem_of_getElem? (set_self h)

/-- What an entry counts for is given back when it is overwritten. -/
theorem countP_set (p : α → Bool) (h : l[k]? = some b) :
    (l.set k a).countP p + (if p b then 1 else 0) = l.countP p + (if p a then 1 else 0) := by
  induction l generalizing k with
  | nil => cases h
  | cons c l ih =>
    cases k with
    | zero =>
      obtain rfl : c = b := Option.some_inj.1 h
      rw [set_cons_zero, countP_cons, countP_cons]
      omega
    | succ k =>
      have hrest := ih (k := k) h
      rw [set_cons_succ, countP_cons, countP_cons]
      omega

theorem countP_append (p : α → Bool) :
    (l ++ [a]).countP p = l.countP p + (if p a then 1 else 0) := by
  rw [List.countP_append, countP_singleton]

end Table

end RezChat
