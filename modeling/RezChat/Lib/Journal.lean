/-
Journals.

A journal is what a program did, newest entry first. What matters about it is
usually of one kind: each entry was justified by the entries before it. Such a
law is checked entry by entry as the journal grows, and read off at the end for
any entry, wherever it stands.
-/
import Mathlib.Data.List.Infix

set_option autoImplicit false

namespace RezChat

namespace Journal

variable {ε : Type} {P Q : ε → List ε → Prop}

/-- Every entry stands in the relation `P` to the entries before it. -/
def Throughout (P : ε → List ε → Prop) : List ε → Prop
  | [] => True
  | e :: past => P e past ∧ Throughout P past

theorem throughout_cons {e : ε} {past : List ε} :
    Throughout P (e :: past) ↔ P e past ∧ Throughout P past := .rfl

/-- A law of the journal, read off at any of its entries. -/
theorem Throughout.of_suffix {e : ε} {past : List ε} :
    ∀ {journal : List ε}, Throughout P journal → (e :: past) <:+ journal → P e past
  | [], _, h => absurd (List.suffix_nil.1 h) (List.cons_ne_nil _ _)
  | e' :: past', hl, h => by
    rcases List.suffix_cons_iff.1 h with he | hs
    · rw [List.cons.injEq] at he
      rw [he.1, he.2]
      exact hl.1
    · exact hl.2.of_suffix hs

end Journal

end RezChat
