/-
Ranked lists of rows with a bounded length.

A program that shows the newest so many rows of something keeps them in one list: a row is
written over the row with its key, or put at the end; then the list is sorted, and what is
beyond the bound is cut off. The sort is stable, so that it is given by its comparison, and
a ranking carries the proof that its rows are in order, have different keys, and are no more
than the bound.

Two questions are asked of such a list. Is a row that was just written still in it? It is,
if there was a row with its key, or room for one more, or a row that it comes before
(`mem_put_self`). And what does a write do to the other rows? If it changes neither the key
nor the rank of the row, nothing (`rows_put_of_alike`).
-/
import Mathlib.Data.List.Sort

set_option autoImplicit false

namespace RezChat

open List Option

universe u v

/-- The rows of a list, the one with the key of `a` replaced by it, or `a` put at the end. -/
def setRow {κ : Type u} {α : Type v} [DecidableEq κ] (key : α → κ) (a : α) (rows : List α) :
    List α :=
  if key a ∈ rows.map key then rows.map fun x => if key x = key a then a else x
  else rows ++ [a]

section SetRow

variable {κ : Type u} {α : Type v} [DecidableEq κ] {key : α → κ} {a b : α} {rows : List α}

theorem map_key_setRow (key : α → κ) (a : α) (rows : List α) : (setRow key a rows).map key =
    if key a ∈ rows.map key then rows.map key else rows.map key ++ [key a] := by
  rw [setRow]
  by_cases h : key a ∈ rows.map key
  · rw [if_pos h, if_pos h, List.map_map]
    refine map_congr_left fun x _ => ?_
    by_cases hx : key x = key a
    · simp [hx]
    · simp [hx]
  · rw [if_neg h, if_neg h, map_append]
    rfl

theorem nodup_setRow (h : (rows.map key).Nodup) : ((setRow key a rows).map key).Nodup := by
  rw [map_key_setRow]
  by_cases hmem : key a ∈ rows.map key
  · rw [if_pos hmem]
    exact h
  · rw [if_neg hmem, nodup_append]
    refine ⟨h, nodup_singleton _, fun k hk k' hk' => ?_⟩
    rw [mem_singleton] at hk'
    rintro rfl
    exact hmem (hk' ▸ hk)

theorem mem_setRow : b ∈ setRow key a rows ↔ b = a ∨ (b ∈ rows ∧ key b ≠ key a) := by
  rw [setRow]
  by_cases h : key a ∈ rows.map key
  · rw [if_pos h, List.mem_map]
    constructor
    · rintro ⟨x, hx, rfl⟩
      by_cases hk : key x = key a
      · rw [if_pos hk]
        exact .inl rfl
      · rw [if_neg hk]
        exact .inr ⟨hx, hk⟩
    · rintro (rfl | ⟨hb, hk⟩)
      · obtain ⟨x, hx, hkey⟩ := mem_map.1 h
        exact ⟨x, hx, if_pos hkey⟩
      · exact ⟨b, hb, if_neg hk⟩
  · rw [if_neg h, mem_append, mem_singleton]
    constructor
    · rintro (hb | rfl)
      · exact .inr ⟨hb, fun hk => h (mem_map.2 ⟨b, hb, hk⟩)⟩
      · exact .inl rfl
    · rintro (rfl | ⟨hb, _⟩)
      · exact .inr rfl
      · exact .inl hb

theorem length_setRow : (setRow key a rows).length =
    if key a ∈ rows.map key then rows.length else rows.length + 1 := by
  have h := congrArg length (map_key_setRow key a rows)
  rw [length_map] at h
  rw [h]
  by_cases hmem : key a ∈ rows.map key
  · rw [if_pos hmem, if_pos hmem, length_map]
  · rw [if_neg hmem, if_neg hmem, length_append, length_map]
    rfl

end SetRow

/-- Rows in the order `r`, with different keys, and no more than `cap` of them. -/
structure Ranking {κ : Type u} {α : Type v} (key : α → κ) (r : α → α → Prop) (cap : Nat) where
  rows : List α
  sorted : rows.Pairwise r
  nodup : (rows.map key).Nodup
  bounded : rows.length ≤ cap

namespace Ranking

variable {κ : Type u} {α : Type v} [DecidableEq κ] {key : α → κ} {r : α → α → Prop} {cap : Nat}

def empty : Ranking key r cap := ⟨[], Pairwise.nil, nodup_nil, Nat.zero_le cap⟩

/-- The row with a key. -/
def get? (t : Ranking key r cap) (k : κ) : Option α := t.rows.find? fun x => decide (key x = k)

/-- The row with a key is taken out. -/
def remove (t : Ranking key r cap) (k : κ) : Ranking key r cap where
  rows := t.rows.filter fun x => decide (key x ≠ k)
  sorted := t.sorted.sublist filter_sublist
  nodup := t.nodup.sublist (filter_sublist.map key)
  bounded := le_trans (length_filter_le _ _) t.bounded

variable {t : Ranking key r cap} {a b : α} {k : κ}

/-! ## Reading -/

theorem get?_eq_some : t.get? k = some b ↔ b ∈ t.rows ∧ key b = k := by
  constructor
  · intro h
    exact ⟨mem_of_find?_eq_some h, by simpa using find?_some (p := fun x => decide (key x = k)) h⟩
  · rintro ⟨hb, rfl⟩
    obtain ⟨x, hx⟩ : ∃ x, t.get? (key b) = some x := by
      rw [get?, ← isSome_iff_exists, find?_isSome]
      exact ⟨b, hb, decide_eq_true rfl⟩
    have hmem : x ∈ t.rows := mem_of_find?_eq_some hx
    have hkey : key x = key b := by
      simpa using find?_some (p := fun x => decide (key x = key b)) hx
    rw [hx, inj_on_of_nodup_map t.nodup hmem hb hkey]

theorem get?_eq_none : t.get? k = none ↔ k ∉ t.rows.map key := by
  rw [get?, find?_eq_none, List.mem_map]
  constructor
  · rintro h ⟨x, hx, rfl⟩
    exact h x hx (decide_eq_true rfl)
  · rintro h x hx hk
    exact h ⟨x, hx, of_decide_eq_true hk⟩

omit [DecidableEq κ] in
/-- A ranking is its rows. -/
theorem rows_inj {t t' : Ranking key r cap} (h : t.rows = t'.rows) : t = t' := by
  obtain ⟨rows, _, _, _⟩ := t
  obtain ⟨rows', _, _, _⟩ := t'
  subst h
  rfl

theorem get?_map {t' : Ranking key r cap} {f : α → α} (hkey : ∀ x, key (f x) = key x)
    (ht : t'.rows = t.rows.map f) (k : κ) : t'.get? k = (t.get? k).map f := by
  refine ext fun b => ?_
  rw [get?_eq_some, ht, map_eq_some_iff, List.mem_map]
  constructor
  · rintro ⟨⟨x, hx, rfl⟩, hk⟩
    exact ⟨x, get?_eq_some.2 ⟨hx, (hkey x).symm.trans hk⟩, rfl⟩
  · rintro ⟨x, hx, rfl⟩
    obtain ⟨hmem, hk⟩ := get?_eq_some.1 hx
    exact ⟨⟨x, hmem, rfl⟩, (hkey x).trans hk⟩

/-! ## Writing -/

variable [DecidableRel r] [Std.Total r] [IsTrans α r]

/-- A row is written: over the row with its key or at the end; the rows are sorted, and those
beyond the bound are cut off. -/
def put (t : Ranking key r cap) (a : α) : Ranking key r cap where
  rows := ((setRow key a t.rows).insertionSort r).take cap
  sorted := (pairwise_insertionSort r _).sublist (take_sublist _ _)
  nodup := by
    have h := ((perm_insertionSort r (setRow key a t.rows)).map key).nodup_iff.2
      (nodup_setRow t.nodup)
    exact h.sublist ((take_sublist _ _).map key)
  bounded := length_take_le _ _

/-- Nothing else comes in with a row that is written. -/
theorem mem_of_mem_put (h : b ∈ (t.put a).rows) : b = a ∨ (b ∈ t.rows ∧ key b ≠ key a) := by
  have hmem := (take_subset _ _ h : b ∈ (setRow key a t.rows).insertionSort r)
  rw [mem_insertionSort] at hmem
  exact mem_setRow.1 hmem

/-- With a row to write over, or room for one more, nothing is cut off. -/
theorem mem_put_of_room (hroom : key a ∈ t.rows.map key ∨ t.rows.length < cap) :
    b ∈ (t.put a).rows ↔ b = a ∨ (b ∈ t.rows ∧ key b ≠ key a) := by
  have hlen : ((setRow key a t.rows).insertionSort r).length ≤ cap := by
    rw [length_insertionSort, length_setRow]
    have hbound := t.bounded
    by_cases hmem : key a ∈ t.rows.map key
    · rw [if_pos hmem]
      exact hbound
    · rw [if_neg hmem]
      exact hroom.resolve_left hmem
  rw [put]
  dsimp only
  rw [take_of_length_le hlen, mem_insertionSort, mem_setRow]

/-- A row that all others of a full list come before is cut off at once. -/
theorem mem_put_of_last (hnew : key a ∉ t.rows.map key) (hfull : t.rows.length = cap)
    (hlast : ∀ x ∈ t.rows, r x a) : (t.put a).rows = t.rows := by
  have hsorted : (t.rows ++ [a]).Pairwise r := by
    rw [pairwise_append]
    refine ⟨t.sorted, pairwise_singleton r a, fun x hx y hy => ?_⟩
    rw [mem_singleton] at hy
    rw [hy]
    exact hlast x hx
  rw [put]
  dsimp only
  rw [setRow, if_neg hnew, hsorted.insertionSort_eq, take_left' hfull]

/-- **A row that was just written is there** if it was written over another, or there was
room for it, or it comes before one that was there. -/
theorem mem_put_self (h : key a ∈ t.rows.map key ∨ t.rows.length < cap ∨
    ∃ x ∈ t.rows, ¬ r x a) : a ∈ (t.put a).rows := by
  by_cases hroom : key a ∈ t.rows.map key ∨ t.rows.length < cap
  · exact (mem_put_of_room hroom).2 (.inl rfl)
  · rw [not_or] at hroom
    obtain ⟨hnew, hfull⟩ := hroom
    obtain ⟨x, hx, hxa⟩ := (h.resolve_left hnew).resolve_left hfull
    by_contra hout
    -- the row would be the last of the sorted list
    have hmem : a ∈ (setRow key a t.rows).insertionSort r := by
      rw [mem_insertionSort, mem_setRow]
      exact .inl rfl
    have hsorted := pairwise_insertionSort r (setRow key a t.rows)
    have hxmem : x ∈ (setRow key a t.rows).insertionSort r := by
      rw [mem_insertionSort, mem_setRow]
      exact .inr ⟨hx, fun hk => hnew (mem_map.2 ⟨x, hx, hk⟩)⟩
    rw [← take_append_drop cap ((setRow key a t.rows).insertionSort r)] at hmem hsorted hxmem
    have hdrop : a ∈ ((setRow key a t.rows).insertionSort r).drop cap :=
      (mem_append.1 hmem).resolve_left hout
    have hlen : (((setRow key a t.rows).insertionSort r).drop cap).length ≤ 1 := by
      rw [length_drop, length_insertionSort, length_setRow, if_neg hnew]
      have hbound := t.bounded
      omega
    rcases mem_append.1 hxmem with hxt | hxd
    · exact hxa ((pairwise_append.1 hsorted).2.2 x hxt a hdrop)
    · obtain ⟨y, hy⟩ := length_eq_one_iff.1 (le_antisymm hlen (length_pos_of_mem hdrop))
      rw [hy, mem_singleton] at hdrop hxd
      exact hnew (mem_map.2 ⟨x, hx, by rw [hxd, hdrop]⟩)

/-- Writing over a row that has the same key and the same rank leaves the other rows, and the
order, as they are. -/
theorem rows_put_of_alike (hb : t.get? (key a) = some b) (hl : ∀ x, r a x ↔ r b x)
    (hr : ∀ x, r x a ↔ r x b) :
    (t.put a).rows = t.rows.map fun x => if key x = key a then a else x := by
  obtain ⟨hmem, hkey⟩ := get?_eq_some.1 hb
  have hin : key a ∈ t.rows.map key := mem_map.2 ⟨b, hmem, hkey⟩
  have hlike : ∀ x ∈ t.rows, key x = key a → x = b := fun x hx hk =>
    inj_on_of_nodup_map t.nodup hx hmem (hk.trans hkey.symm)
  have hsorted : (t.rows.map fun x => if key x = key a then a else x).Pairwise r := by
    rw [pairwise_map]
    refine t.sorted.imp_of_mem fun {x y} hx hy hxy => ?_
    by_cases hkx : key x = key a
    · rw [if_pos hkx]
      have hbx := hlike x hx hkx
      by_cases hky : key y = key a
      · rw [if_pos hky, hl, hr]
        rw [hbx, hlike y hy hky] at hxy
        exact hxy
      · rw [if_neg hky, hl, ← hbx]
        exact hxy
    · rw [if_neg hkx]
      by_cases hky : key y = key a
      · rw [if_pos hky, hr, ← hlike y hy hky]
        exact hxy
      · rw [if_neg hky]
        exact hxy
  rw [put]
  dsimp only
  rw [setRow, if_pos hin, hsorted.insertionSort_eq, take_of_length_le]
  rw [length_map]
  exact t.bounded

/-- Rows that were changed one by one, neither in their key nor in their rank: a row that is
written, and that is not changed so, comes out among the others the same way. -/
theorem rows_put_map {t' : Ranking key r cap} {f : α → α} (hkey : ∀ x, key (f x) = key x)
    (hrank : ∀ x y, r (f x) (f y) ↔ r x y) (ht : t'.rows = t.rows.map f) (ha : f a = a) :
    (t'.put a).rows = (t.put a).rows.map f := by
  have hkeys : t'.rows.map key = t.rows.map key := by
    rw [ht, List.map_map]
    exact map_congr_left fun x _ => hkey x
  have hset : setRow key a t'.rows = (setRow key a t.rows).map f := by
    rw [setRow, setRow, hkeys]
    by_cases hin : key a ∈ t.rows.map key
    · rw [if_pos hin, if_pos hin, ht, List.map_map, List.map_map]
      refine map_congr_left fun x _ => ?_
      simp only [Function.comp_apply, hkey]
      by_cases hx : key x = key a
      · rw [if_pos hx, if_pos hx, ha]
      · rw [if_neg hx, if_neg hx]
    · rw [if_neg hin, if_neg hin, ht, map_append, map_singleton, ha]
  rw [put, put]
  dsimp only
  rw [hset, map_take, map_insertionSort r r f _ fun x _ y _ => (hrank x y).symm]

/-- What is under a key after a row was written over another. -/
theorem get?_put_of_has (hin : key a ∈ t.rows.map key) (k : κ) :
    (t.put a).get? k = if k = key a then some a else t.get? k := by
  refine ext fun b => ?_
  rw [get?_eq_some, mem_put_of_room (.inl hin)]
  by_cases hk : k = key a
  · rw [if_pos hk, hk, some_inj]
    constructor
    · rintro ⟨rfl | ⟨_, hne⟩, hkey⟩
      · rfl
      · exact absurd hkey hne
    · rintro rfl
      exact ⟨.inl rfl, rfl⟩
  · rw [if_neg hk, get?_eq_some]
    constructor
    · rintro ⟨rfl | ⟨hb, _⟩, hkey⟩
      · exact absurd hkey.symm hk
      · exact ⟨hb, hkey⟩
    · rintro ⟨hb, rfl⟩
      exact ⟨.inr ⟨hb, hk⟩, rfl⟩

/-- What is under another key after a row was written was there before. -/
theorem get?_of_get?_put (hk : k ≠ key a) (h : (t.put a).get? k = some b) : t.get? k = some b := by
  obtain ⟨hmem, hkey⟩ := get?_eq_some.1 h
  rcases mem_of_mem_put hmem with rfl | ⟨hb, _⟩
  · exact absurd hkey.symm hk
  · exact get?_eq_some.2 ⟨hb, hkey⟩

/-- **A new row** is there afterwards if there is room, or a row behind it to push out. -/
theorem get?_put_new {a : α} (hnew : key a ∉ t.rows.map key)
    [Decidable (t.rows.length < cap ∨ ∃ x ∈ t.rows, ¬ r x a)] :
    (t.put a).get? (key a) =
      if t.rows.length < cap ∨ ∃ x ∈ t.rows, ¬ r x a then some a else none := by
  by_cases hroom : t.rows.length < cap ∨ ∃ x ∈ t.rows, ¬ r x a
  · rw [if_pos hroom]
    exact get?_eq_some.2 ⟨mem_put_self (.inr hroom), rfl⟩
  · rw [if_neg hroom, get?_eq_none]
    rw [not_or, not_exists] at hroom
    rw [mem_put_of_last hnew (le_antisymm t.bounded (not_lt.1 hroom.1))]
    · exact hnew
    · intro x hx
      by_contra hle
      exact hroom.2 x ⟨hx, hle⟩

end Ranking

end RezChat
