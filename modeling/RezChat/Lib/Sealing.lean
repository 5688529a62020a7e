/-
Sealed content.

What is sealed under a key is opened by that key and by no other. This is what is assumed of
authenticated encryption with a key derived from a password: nothing of how it is done is said
here.
-/
import Mathlib.Logic.Basic

set_option autoImplicit false

namespace RezChat

/-- Content under a key. -/
structure Sealed (κ α : Type) where
  key : κ
  content : α
  deriving DecidableEq

namespace Sealed

variable {κ α : Type} [DecidableEq κ]

/-- Open it with a key. -/
def opened (s : Sealed κ α) (key : κ) : Option α := if key = s.key then some s.content else none

@[simp] theorem opened_mk (key : κ) (a : α) : opened ⟨key, a⟩ key = some a := if_pos rfl

theorem opened_eq_some_iff {s : Sealed κ α} {key : κ} {a : α} :
    s.opened key = some a ↔ key = s.key ∧ s.content = a := by
  rw [opened]
  by_cases h : key = s.key
  · rw [if_pos h]
    simp [h]
  · rw [if_neg h]
    simp [h]

theorem content_of_opened {s : Sealed κ α} {key : κ} {a : α} (h : s.opened key = some a) :
    s.content = a := (opened_eq_some_iff.1 h).2

theorem opened_of_ne {s : Sealed κ α} {key : κ} (h : key ≠ s.key) : s.opened key = none := if_neg h

end Sealed

end RezChat
