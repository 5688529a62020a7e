/-
Reading a list in pages.

Rows that are in order are read in pages of at most so many, and each page starts behind the last row
of the one before it. What is behind a row is decided by the comparison that the rows are ordered by,
so where the comparison takes two rows to be equal, neither is behind the other: if the first is the
last row of a page, the second is on no page at all.

Paging always ends (`walk_ends`), it never reads a row twice or out of order (`walk_sublist`), and it
reads every row exactly if no page ends between two rows that are equal (`walk_perm_iff`).
-/
import Mathlib.Data.List.Basic
import Mathlib.Order.Basic

set_option autoImplicit false

namespace RezChat

open List

namespace Paging

universe u

variable {α : Type u} (r : α → α → Prop) [DecidableRel r]

/-- The rows behind a row, or all rows. -/
def behind (rows : List α) : Option α → List α
  | none => rows
  | some last => rows.filter fun x => decide (¬ r x last)

/-- Pages of at most `size` rows, until one is empty. At most so many pages are read; the second
component is whether the last one was empty. -/
def walk (size : Nat) (rows : List α) : Nat → Option α → List α × Bool
  | 0, _ => ([], false)
  | pages + 1, before =>
    match ((behind r rows before).take size).getLast? with
    | none => ([], true)
    | some last =>
      ((behind r rows before).take size ++ (walk size rows pages (some last)).1,
        (walk size rows pages (some last)).2)

/-- No page ends between two rows that the comparison takes to be equal. -/
def Untied (size : Nat) (rows : List α) : Prop :=
  ∀ page last next, rows[page * size + (size - 1)]? = some last →
    rows[page * size + size]? = some next → ¬ r next last

variable {r} {size : Nat} {rows done rest : List α} {last : α}

/-- Pages that may be read after the one that was empty change nothing. -/
theorem walk_of_ended : ∀ {pages pages' : Nat} {before : Option α}, pages ≤ pages' →
    (walk r size rows pages before).2 = true →
      walk r size rows pages' before = walk r size rows pages before
  | 0, _, _, _, h => by cases h
  | pages + 1, 0, _, hle, _ => absurd hle (by omega)
  | pages + 1, pages' + 1, before, hle, h => by
    rw [walk] at h
    rw [walk, walk]
    cases hlast : ((behind r rows before).take size).getLast? with
    | none => rfl
    | some last =>
      rw [hlast] at h
      have hrest := walk_of_ended (Nat.le_of_succ_le_succ hle) h
      dsimp only
      rw [hrest]

omit [DecidableRel r] in
theorem untied_nil : Untied r size ([] : List α) := by
  intro page last next hlast
  cases hlast

omit [DecidableRel r] in
/-- The first page, and the ones after it. -/
theorem untied_iff : Untied r size rows ↔
    (∀ last next, rows[size - 1]? = some last → rows[size]? = some next → ¬ r next last) ∧
      Untied r size (rows.drop size) := by
  have hshift : ∀ page, size + (page * size + (size - 1)) = (page + 1) * size + (size - 1) ∧
      size + (page * size + size) = (page + 1) * size + size := by
    intro page
    rw [Nat.add_mul, Nat.one_mul]
    omega
  constructor
  · refine fun hall => ⟨fun last next hlast hnext => ?_, fun page last next hlast hnext => ?_⟩
    · refine hall 0 last next ?_ ?_
      · rwa [Nat.zero_mul, Nat.zero_add]
      · rwa [Nat.zero_mul, Nat.zero_add]
    · rw [getElem?_drop, (hshift page).1] at hlast
      rw [getElem?_drop, (hshift page).2] at hnext
      exact hall (page + 1) last next hlast hnext
  · rintro ⟨hfirst, hrest⟩ page last next hlast hnext
    cases page with
    | zero =>
      rw [Nat.zero_mul, Nat.zero_add] at hlast hnext
      exact hfirst last next hlast hnext
    | succ page =>
      refine hrest page last next ?_ ?_
      · rw [getElem?_drop, (hshift page).1]
        exact hlast
      · rw [getElem?_drop, (hshift page).2]
        exact hnext

section Order

variable [IsTrans α r] [Std.Total r]

/-- What is behind the last row that was read: what follows, without the rows that are equal to
it. -/
theorem behind_append (hsorted : (done ++ rest).Pairwise r) (hlast : done.getLast? = some last) :
    behind r (done ++ rest) (some last) = rest.dropWhile fun x => decide (r x last) := by
  obtain ⟨before, rfl⟩ := getLast?_eq_some_iff.1 hlast
  have hrefl : r last last := (Std.Total.total last last).elim id id
  have hdone : (before ++ [last]).filter (fun x => decide (¬ r x last)) = [] := by
    rw [filter_eq_nil_iff]
    intro x hx
    rw [decide_eq_true_iff, not_not]
    rcases mem_append.1 hx with hbefore | heq
    · rw [append_assoc, pairwise_append] at hsorted
      exact hsorted.2.2 x hbefore last (mem_append_left _ mem_cons_self)
    · rwa [mem_singleton.1 heq]
  have hrest : ∀ l : List α, l.Pairwise r →
      l.filter (fun x => decide (¬ r x last)) = l.dropWhile fun x => decide (r x last) := by
    intro l
    induction l with
    | nil => exact fun _ => rfl
    | cons x l ih =>
      intro hl
      rw [pairwise_cons] at hl
      by_cases hx : r x last
      · rw [filter_cons_of_neg (by rwa [decide_eq_true_iff, not_not]),
          dropWhile_cons_of_pos (p := fun x => decide (r x last)) (decide_eq_true hx), ih hl.2]
      · -- what comes after a row that is behind is behind too
        rw [dropWhile_cons_of_neg (p := fun x => decide (r x last)) (by rwa [decide_eq_true_iff]),
          filter_eq_self]
        intro y hy
        rw [decide_eq_true_iff]
        rcases mem_cons.1 hy with rfl | hmem
        · exact hx
        · exact fun hry => hx (trans_of r (hl.1 y hmem) hry)
  rw [behind, filter_append, hdone, nil_append,
    hrest rest (pairwise_append.1 hsorted).2.1]

omit [IsTrans α r] [Std.Total r] in
/-- Nothing is skipped where the row after a page is not equal to its last one. -/
theorem dropWhile_eq_iff (hlast : (rest.take size).getLast? = some last) :
    (rest.drop size).dropWhile (fun x => decide (r x last)) = rest.drop size ↔
      ∀ last next, rest[size - 1]? = some last → rest[size]? = some next → ¬ r next last := by
  cases hdrop : rest.drop size with
  | nil =>
    refine ⟨fun _ last' next _ hnext => ?_, fun _ => rfl⟩
    have hshort := drop_eq_nil_iff.1 hdrop
    rw [getElem?_eq_none hshort] at hnext
    cases hnext
  | cons next after =>
    have hnext : rest[size]? = some next := by
      have hhead : (rest.drop size)[0]? = rest[size + 0]? := getElem?_drop
      rw [hdrop] at hhead
      exact hhead.symm
    have hlength : size < rest.length := (List.getElem?_eq_some_iff.1 hnext).1
    have hend : rest[size - 1]? = some last := by
      rw [getLast?_eq_getElem?, length_take, Nat.min_eq_left (Nat.le_of_lt hlength),
        getElem?_take] at hlast
      split at hlast
      · exact hlast
      · cases hlast
    constructor
    · intro heq last' next' hlast' hnext' hr
      rw [hend, Option.some_inj] at hlast'
      rw [hnext, Option.some_inj] at hnext'
      subst hlast' hnext'
      rw [dropWhile_cons_of_pos (p := fun x => decide (r x last)) (decide_eq_true hr)] at heq
      have hle := (dropWhile_sublist (fun x => decide (r x last)) (l := after)).length_le
      rw [heq, length_cons] at hle
      omega
    · intro hall
      refine dropWhile_cons_of_neg (p := fun x => decide (r x last)) ?_
      rw [decide_eq_true_iff]
      exact hall last next hend hnext

/-- **Paging from a place in the list.** The induction is on the pages that may be read; each page
that is not empty leaves less to read. -/
theorem walk_from (hsize : 0 < size) : ∀ (pages : Nat) (done rest : List α) (before : Option α),
    (done ++ rest).Pairwise r → behind r (done ++ rest) before = rest → rest.length < pages →
    (walk r size (done ++ rest) pages before).2 = true ∧
      ((walk r size (done ++ rest) pages before).1).Sublist rest ∧
      ((walk r size (done ++ rest) pages before).1 = rest ↔ Untied r size rest)
  | 0, _, _, _, _, _, hfuel => absurd hfuel (Nat.not_lt_zero _)
  | pages + 1, done, rest, before, hsorted, hbehind, hfuel => by
    rw [walk, hbehind]
    cases hlast : (rest.take size).getLast? with
    | none =>
      have hnil : rest = [] := by
        rw [getLast?_eq_none_iff, take_eq_nil_iff] at hlast
        exact hlast.resolve_left (by omega)
      subst hnil
      exact ⟨rfl, Sublist.refl _, fun _ => untied_nil, fun _ => rfl⟩
    | some last =>
      dsimp only
      have hne : rest ≠ [] := by
        rintro rfl
        rw [take_nil] at hlast
        cases hlast
      -- the list is what was read, what is skipped, and what is left
      have hsplit : done ++ rest = (done ++ rest.take size) ++ rest.drop size := by
        rw [append_assoc, take_append_drop]
      have hskip : behind r (done ++ rest) (some last) =
          (rest.drop size).dropWhile fun x => decide (r x last) := by
        rw [hsplit]
        refine behind_append (hsplit ▸ hsorted) ?_
        rw [getLast?_append, hlast]
        rfl
      have hrows : done ++ rest = (done ++ rest.take size ++
          (rest.drop size).takeWhile fun x => decide (r x last)) ++
            (rest.drop size).dropWhile fun x => decide (r x last) := by
        rw [append_assoc, takeWhile_append_dropWhile]
        exact hsplit
      have hless : ((rest.drop size).dropWhile fun x => decide (r x last)).length < pages := by
        have hle := (dropWhile_sublist (fun x => decide (r x last))
          (l := rest.drop size)).length_le
        have hpos := length_pos_of_ne_nil hne
        rw [length_drop] at hle
        omega
      obtain ⟨hends, hsub, hexact⟩ := walk_from hsize pages _ _ (some last) (hrows ▸ hsorted)
        (hrows ▸ hskip) hless
      rw [← hrows] at hends hsub hexact
      generalize (walk r size (done ++ rest) pages (some last)).1 = visited at hsub hexact ⊢
      have hsub' := hsub.trans (dropWhile_sublist (fun x => decide (r x last)))
      refine ⟨hends, ?_, ?_⟩
      · conv_rhs => rw [← take_append_drop size rest]
        exact (Sublist.refl _).append hsub'
      · rw [untied_iff, ← dropWhile_eq_iff hlast]
        constructor
        · intro heq
          -- all of what follows the page was read, so none of it was skipped
          have hvisited : visited = rest.drop size := by
            have hsame := heq.trans (take_append_drop size rest).symm
            exact append_cancel_left hsame
          have hlength := hsub.length_le
          rw [hvisited] at hlength
          have hnone := (dropWhile_sublist (fun x => decide (r x last))
            (l := rest.drop size)).eq_of_length_le hlength
          refine ⟨hnone, ?_⟩
          rw [← hnone]
          exact hexact.1 (hvisited.trans hnone.symm)
        · rintro ⟨hnone, huntied⟩
          rw [hnone] at hexact
          rw [hexact.2 huntied, take_append_drop]

/-- Paging ends. -/
theorem walk_ends (hsize : 0 < size) (hsorted : rows.Pairwise r) {pages : Nat}
    (hpages : rows.length < pages) : (walk r size rows pages none).2 = true :=
  (walk_from hsize pages [] rows none hsorted rfl hpages).1

/-- No row is read twice, or before one that it comes after. -/
theorem walk_sublist (hsize : 0 < size) (hsorted : rows.Pairwise r) {pages : Nat}
    (hpages : rows.length < pages) : (walk r size rows pages none).1.Sublist rows :=
  (walk_from hsize pages [] rows none hsorted rfl hpages).2.1

/-- **Every row is read** exactly if no page ends between equal rows. -/
theorem walk_eq_iff (hsize : 0 < size) (hsorted : rows.Pairwise r) {pages : Nat}
    (hpages : rows.length < pages) :
    (walk r size rows pages none).1 = rows ↔ Untied r size rows :=
  (walk_from hsize pages [] rows none hsorted rfl hpages).2.2

theorem walk_perm_iff (hsize : 0 < size) (hsorted : rows.Pairwise r) {pages : Nat}
    (hpages : rows.length < pages) :
    (walk r size rows pages none).1.Perm rows ↔ Untied r size rows := by
  rw [← walk_eq_iff hsize hsorted hpages]
  constructor
  · intro hperm
    exact (walk_sublist hsize hsorted hpages).eq_of_length hperm.length_eq
  · rintro heq
    rw [heq]

omit [DecidableRel r] [IsTrans α r] [Std.Total r] in
/-- Pages of any size are exact if each row is behind all before it. -/
theorem untied_of_pairwise (hsize : 0 < size) (h : rows.Pairwise fun a b => ¬ r b a) :
    Untied r size rows := by
  intro page last next hlast hnext
  obtain ⟨hi, rfl⟩ := List.getElem?_eq_some_iff.1 hlast
  obtain ⟨hj, rfl⟩ := List.getElem?_eq_some_iff.1 hnext
  exact pairwise_iff_getElem.1 h _ _ hi hj (by omega)

omit [DecidableRel r] in
/-- A page of one row ends at each row, so there it is the only way. -/
theorem untied_one_iff : Untied r 1 rows ↔ rows.Pairwise fun a b => ¬ r b a := by
  refine ⟨fun huntied => ?_, untied_of_pairwise Nat.one_pos⟩
  have : IsTrans α fun a b => ¬ r b a := ⟨by
    intro a b c hba hcb hca
    have hbc : r b c := (Std.Total.total b c).resolve_right hcb
    exact hba (trans_of r hbc hca)⟩
  rw [← isChain_iff_pairwise, isChain_iff_getElem]
  intro i hi
  refine huntied i _ _ ?_ ?_
  · rw [Nat.mul_one, Nat.sub_self, Nat.add_zero]
    exact getElem?_eq_getElem (Nat.lt_of_succ_lt hi)
  · rw [Nat.mul_one]
    exact getElem?_eq_getElem hi

end Order

end Paging

end RezChat
