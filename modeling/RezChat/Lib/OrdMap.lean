/-
Insertion-ordered finite maps.

A JavaScript `Map`, and a plain object used as one, keeps its entries in the
order their keys were first written: overwriting a key leaves it where it is,
deleting it and writing it again moves it to the end. Two facts about such a
map matter to a program that bounds it: which entry is the oldest, and by how
much a deletion shrinks it. A finite map that forgets the order has neither,
so the entries are kept as a list, and the structure carries the proof that no
key occurs twice.
-/
import Mathlib.Algebra.GroupWithZero.Nat
import Mathlib.Data.List.Nodup
import Mathlib.Data.List.Lookmap

set_option autoImplicit false

namespace RezChat

open List Option Prod

universe u v

/-- A finite map that remembers the order in which its keys were first
written. -/
structure OrdMap (κ : Type u) (α : Type v) where
  entries : List (κ × α)
  nodup : (entries.map fst).Nodup

namespace OrdMap

variable {κ : Type u} {α : Type v}

@[ext] theorem ext {m n : OrdMap κ α} (h : m.entries = n.entries) : m = n := by
  cases m; cases n; cases h; rfl

instance [DecidableEq κ] [DecidableEq α] : DecidableEq (OrdMap κ α) := fun m n =>
  decidable_of_iff (m.entries = n.entries) ⟨ext, fun h => h ▸ rfl⟩

/-- The map without entries. -/
def empty : OrdMap κ α := ⟨[], nodup_nil⟩

/-- The number of entries. -/
def size (m : OrdMap κ α) : Nat := m.entries.length

/-- The keys, oldest first. -/
def keys (m : OrdMap κ α) : List κ := m.entries.map fst

/-- The values, oldest first. -/
def values (m : OrdMap κ α) : List α := m.entries.map snd

/-! ## Lists of entries -/

section Entries

variable [DecidableEq κ]

/-- Overwrite the entry of `k` where it stands, or append one. -/
def setEntry (k : κ) (a : α) : List (κ × α) → List (κ × α)
  | [] => [(k, a)]
  | e :: es => if e.1 = k then (k, a) :: es else e :: setEntry k a es

theorem setEntry_cons (k : κ) (a : α) (e : κ × α) (es : List (κ × α)) :
    setEntry k a (e :: es) = if e.1 = k then (k, a) :: es else e :: setEntry k a es := rfl

/-- `List.lookup` decides its key by `==`; this is the same step by `=`. -/
theorem lookup_cons_eq (k : κ) (e : κ × α) (es : List (κ × α)) :
    (e :: es).lookup k = if k = e.1 then some e.2 else es.lookup k := by
  obtain ⟨k', a⟩ := e
  by_cases hk : k = k'
  · rw [if_pos hk, hk, lookup_cons_self]
  · have hne : (k == k') = false := beq_false_of_ne hk
    rw [if_neg hk, lookup_cons, hne]

theorem fst_mem_setEntry (k k' : κ) (a : α) (es : List (κ × α)) :
    k' ∈ (setEntry k a es).map fst ↔ k' = k ∨ k' ∈ es.map fst := by
  induction es with
  | nil => simp [setEntry]
  | cons e es ih =>
    rw [setEntry_cons]
    by_cases he : e.1 = k
    · rw [if_pos he, map_cons, map_cons, mem_cons, mem_cons, he]
      tauto
    · rw [if_neg he, map_cons, map_cons, mem_cons, mem_cons, ih]
      tauto

theorem nodup_setEntry (k : κ) (a : α) (es : List (κ × α))
    (h : (es.map fst).Nodup) : ((setEntry k a es).map fst).Nodup := by
  induction es with
  | nil => simp [setEntry]
  | cons e es ih =>
    rw [map_cons, nodup_cons] at h
    by_cases he : e.1 = k
    · rw [setEntry, if_pos he, map_cons, nodup_cons]
      exact ⟨he ▸ h.1, h.2⟩
    · rw [setEntry, if_neg he, map_cons, nodup_cons, fst_mem_setEntry]
      exact ⟨by rintro (rfl | hm); exacts [he rfl, h.1 hm], ih h.2⟩

theorem lookup_setEntry (k k' : κ) (a : α) (es : List (κ × α)) :
    (setEntry k a es).lookup k' = if k' = k then some a else es.lookup k' := by
  induction es with
  | nil => rw [setEntry, lookup_cons_eq, lookup_nil]
  | cons e es ih =>
    rw [setEntry_cons]
    by_cases he : e.1 = k
    · rw [if_pos he, lookup_cons_eq, lookup_cons_eq, he]
      by_cases hk : k' = k
      · rw [if_pos hk, if_pos hk]
      · rw [if_neg hk, if_neg hk, if_neg hk]
    · rw [if_neg he, lookup_cons_eq, lookup_cons_eq, ih]
      by_cases hk : k' = k
      · have hne : k' ≠ e.1 := fun h => he (h ▸ hk)
        rw [if_neg hne, if_pos hk, if_pos hk]
      · rw [if_neg hk, if_neg hk]

theorem length_setEntry (k : κ) (a : α) (es : List (κ × α)) :
    (setEntry k a es).length =
      if k ∈ es.map fst then es.length else es.length + 1 := by
  induction es with
  | nil => rfl
  | cons e es ih =>
    rw [setEntry_cons]
    by_cases he : e.1 = k
    · rw [if_pos he, if_pos (he ▸ mem_cons_self)]
      rfl
    · have hmem : k ∈ (e :: es).map fst ↔ k ∈ es.map fst := by
        rw [map_cons, mem_cons]
        exact or_iff_right (Ne.symm he)
      rw [if_neg he, length_cons, ih]
      by_cases hk : k ∈ es.map fst
      · rw [if_pos hk, if_pos (hmem.2 hk), length_cons]
      · rw [if_neg hk, if_neg (mt hmem.1 hk), length_cons]

variable {es : List (κ × α)}

theorem setEntry_of_notMem {k : κ} (a : α) (h : k ∉ es.map fst) :
    setEntry k a es = es ++ [(k, a)] := by
  induction es with
  | nil => rfl
  | cons e es ih =>
    rw [map_cons, mem_cons, not_or] at h
    rw [setEntry_cons, if_neg (Ne.symm h.1), ih h.2]
    rfl

theorem lookup_filter_ne (k k' : κ) (es : List (κ × α)) :
    (es.filter (fun e => decide (e.1 ≠ k))).lookup k' =
      if k' = k then none else es.lookup k' := by
  induction es with
  | nil => simp
  | cons e es ih =>
    by_cases he : e.1 = k
    · rw [filter_cons_of_neg (by simpa using he), ih, lookup_cons_eq, he]
      by_cases hk : k' = k
      · rw [if_pos hk, if_pos hk]
      · rw [if_neg hk, if_neg hk, if_neg hk]
    · rw [filter_cons_of_pos (by simpa using he), lookup_cons_eq, ih, lookup_cons_eq]
      by_cases hk : k' = k
      · have hne : k' ≠ e.1 := fun h => he (h ▸ hk)
        rw [if_neg hne, if_pos hk, if_pos hk]
      · rw [if_neg hk, if_neg hk]

theorem lookup_of_mem (h : (es.map fst).Nodup) {k : κ} {a : α}
    (hm : (k, a) ∈ es) : es.lookup k = some a := by
  induction es with
  | nil => cases hm
  | cons e es ih =>
    rw [map_cons, nodup_cons] at h
    rw [lookup_cons_eq]
    rcases mem_cons.1 hm with rfl | hm
    · rw [if_pos rfl]
    · have hne : k ≠ e.1 := fun hk =>
        h.1 (hk ▸ mem_map_of_mem (f := fst) hm)
      rw [if_neg hne]
      exact ih h.2 hm

theorem mem_of_lookup {k : κ} {a : α} (h : es.lookup k = some a) :
    (k, a) ∈ es := by
  induction es with
  | nil => simp at h
  | cons e es ih =>
    rw [lookup_cons_eq] at h
    by_cases hk : k = e.1
    · rw [if_pos hk, some_inj] at h
      rw [hk, ← h]
      exact mem_cons_self
    · rw [if_neg hk] at h
      exact mem_cons_of_mem _ (ih h)

end Entries

/-! ## The operations -/

section Operations

variable [DecidableEq κ]

/-- The value written under `k`, if there is one. -/
def get? (m : OrdMap κ α) (k : κ) : Option α := m.entries.lookup k

/-- Whether something is written under `k`. -/
def has (m : OrdMap κ α) (k : κ) : Bool := (m.get? k).isSome

/-- Write `a` under `k`. -/
def set (m : OrdMap κ α) (k : κ) (a : α) : OrdMap κ α :=
  ⟨setEntry k a m.entries, nodup_setEntry k a m.entries m.nodup⟩

/-- Remove what is written under `k`. -/
def delete (m : OrdMap κ α) (k : κ) : OrdMap κ α :=
  ⟨m.entries.filter (fun e => decide (e.1 ≠ k)),
    (filter_sublist.map fst).nodup m.nodup⟩

/-- What `f` makes of the values, where it makes something of them. -/
def filterMap {β : Type v} (f : α → Option β) (m : OrdMap κ α) : OrdMap κ β where
  entries := m.entries.filterMap fun e => (f e.2).map (Prod.mk e.1)
  nodup := by
    have hkeys : ∀ es : List (κ × α),
        ((es.filterMap fun e => (f e.2).map (Prod.mk e.1)).map Prod.fst).Sublist
          (es.map fst) := by
      intro es
      induction es with
      | nil => exact Sublist.slnil
      | cons e es ih =>
        rw [filterMap_cons]
        cases f e.2 with
        | none => exact ih.cons e.1
        | some b => exact ih.cons_cons e.1
    exact (hkeys m.entries).nodup m.nodup

/-- The entries whose keys are among those. -/
def restrict (p : κ → Bool) (m : OrdMap κ α) : OrdMap κ α :=
  ⟨m.entries.filter fun e => p e.1, (filter_sublist.map fst).nodup m.nodup⟩

/-- Forget the `n` oldest entries. -/
def drop (m : OrdMap κ α) (n : Nat) : OrdMap κ α :=
  ⟨m.entries.drop n, ((drop_sublist n m.entries).map fst).nodup m.nodup⟩

/-- The sum of what the values amount to. -/
def total (f : α → Nat) (m : OrdMap κ α) : Nat := (m.values.map f).sum

@[simp] theorem get?_empty (k : κ) : (empty : OrdMap κ α).get? k = none := rfl

@[simp] theorem has_empty (k : κ) : (empty : OrdMap κ α).has k = false := rfl

theorem get?_set (m : OrdMap κ α) (k k' : κ) (a : α) :
    (m.set k a).get? k' = if k' = k then some a else m.get? k' :=
  lookup_setEntry k k' a m.entries

@[simp] theorem get?_set_self (m : OrdMap κ α) (k : κ) (a : α) :
    (m.set k a).get? k = some a := by
  rw [get?_set, if_pos rfl]

theorem get?_set_of_ne (m : OrdMap κ α) {k k' : κ} (a : α) (h : k' ≠ k) :
    (m.set k a).get? k' = m.get? k' := by
  rw [get?_set, if_neg h]

theorem get?_delete (m : OrdMap κ α) (k k' : κ) :
    (m.delete k).get? k' = if k' = k then none else m.get? k' :=
  lookup_filter_ne k k' m.entries

@[simp] theorem get?_delete_self (m : OrdMap κ α) (k : κ) : (m.delete k).get? k = none := by
  rw [get?_delete, if_pos rfl]

theorem get?_delete_of_ne (m : OrdMap κ α) {k k' : κ} (h : k' ≠ k) :
    (m.delete k).get? k' = m.get? k' := by
  rw [get?_delete, if_neg h]

theorem has_set (m : OrdMap κ α) (k k' : κ) (a : α) :
    (m.set k a).has k' = (decide (k' = k) || m.has k') := by
  by_cases h : k' = k <;> simp [has, get?_set, h]

theorem has_delete (m : OrdMap κ α) (k k' : κ) :
    (m.delete k).has k' = (!decide (k' = k) && m.has k') := by
  by_cases h : k' = k <;> simp [has, get?_delete, h]

variable {m : OrdMap κ α} {k : κ}

theorem has_iff : m.has k = true ↔ ∃ a, m.get? k = some a := by
  rw [has, isSome_iff_exists]

theorem has_of_get? {a : α} (h : m.get? k = some a) :
    m.has k = true :=
  has_iff.2 ⟨a, h⟩

theorem mem_entries_iff {a : α} :
    (k, a) ∈ m.entries ↔ m.get? k = some a :=
  ⟨lookup_of_mem m.nodup, mem_of_lookup⟩

theorem mem_values_iff {a : α} :
    a ∈ m.values ↔ ∃ k, m.get? k = some a := by
  constructor
  · intro h
    obtain ⟨⟨k, b⟩, he, rfl⟩ := mem_map.1 h
    exact ⟨k, mem_entries_iff.1 he⟩
  · rintro ⟨k, h⟩
    exact mem_map.2 ⟨(k, a), mem_entries_iff.2 h, rfl⟩

theorem get?_filterMap {β : Type v} (f : α → Option β) (m : OrdMap κ α) (k : κ) :
    (m.filterMap f).get? k = (m.get? k).bind f := by
  refine Option.ext fun b => ?_
  rw [← mem_entries_iff, filterMap, mem_filterMap, bind_eq_some_iff]
  constructor
  · rintro ⟨e, he, hb⟩
    obtain ⟨b', hb', heq⟩ := map_eq_some_iff.1 hb
    obtain ⟨rfl, rfl⟩ := Prod.mk.inj heq
    exact ⟨e.2, mem_entries_iff.1 he, hb'⟩
  · rintro ⟨a, ha, hb⟩
    exact ⟨(k, a), mem_entries_iff.2 ha, map_eq_some_iff.2 ⟨b, hb, rfl⟩⟩

/-- What is left after forgetting was there before. -/
theorem get?_of_get?_drop {n : Nat} {a : α}
    (h : (m.drop n).get? k = some a) : m.get? k = some a :=
  mem_entries_iff.1 ((drop_sublist n m.entries).subset (mem_entries_iff.2 h))

omit [DecidableEq κ] in
@[simp] theorem total_empty (f : α → Nat) : (empty : OrdMap κ α).total f = 0 := rfl

/-- A write changes the sum by what it writes and what it overwrites. -/
theorem total_set (f : α → Nat) (m : OrdMap κ α) (k : κ) (a : α) :
    (m.set k a).total f + ((m.get? k).map f).getD 0 = m.total f + f a := by
  have hsum : ∀ es : List (κ × α), ((setEntry k a es).map fun e => f e.2).sum +
      ((es.lookup k).map f).getD 0 = (es.map fun e => f e.2).sum + f a := by
    intro es
    induction es with
    | nil => simp [setEntry]
    | cons e es ih =>
      rw [setEntry_cons, lookup_cons_eq]
      by_cases h : e.1 = k
      · rw [if_pos h, if_pos h.symm]
        simp only [map_cons, sum_cons, map_some, getD_some]
        omega
      · rw [if_neg h, if_neg fun hk => h hk.symm]
        simp only [map_cons, sum_cons]
        omega
  simpa only [total, values, List.map_map, Function.comp_def, get?, set] using hsum m.entries

/-- A deletion takes from the sum what it deletes. -/
theorem total_delete (f : α → Nat) (m : OrdMap κ α) (k : κ) :
    (m.delete k).total f + ((m.get? k).map f).getD 0 = m.total f := by
  have hsum : ∀ es : List (κ × α), (es.map fst).Nodup →
      ((es.filter fun e => decide (e.1 ≠ k)).map fun e => f e.2).sum +
        ((es.lookup k).map f).getD 0 = (es.map fun e => f e.2).sum := by
    intro es
    induction es with
    | nil => intro _; simp
    | cons e es ih =>
      intro hnodup
      rw [map_cons, nodup_cons] at hnodup
      have hrest := ih hnodup.2
      rw [lookup_cons_eq, filter_cons]
      by_cases h : e.1 = k
      · -- no other entry has this key
        have hnone : es.lookup k = none := by
          rw [lookup_eq_none_iff]
          intro e' he'
          have hne : e'.1 ≠ k := fun hk =>
            hnodup.1 (mem_map.2 ⟨e', he', hk.trans h.symm⟩)
          simpa using fun hk : k = e'.1 => hne hk.symm
        rw [hnone] at hrest
        rw [if_neg (by simp [h]), if_pos h.symm]
        simp only [map_cons, sum_cons, map_some, map_none,
          getD_some, getD_none] at hrest ⊢
        omega
      · rw [if_pos (by simp [h]), if_neg fun hk => h hk.symm]
        simp only [map_cons, sum_cons]
        omega
  simpa only [total, values, List.map_map, Function.comp_def, get?, delete] using
    hsum m.entries m.nodup

theorem total_eq_zero {f : α → Nat}
    (h : ∀ k, ((m.get? k).map f).getD 0 = 0) : m.total f = 0 := by
  rw [total, List.sum_eq_zero_iff_forall_eq_nat]
  intro n hn
  obtain ⟨a, ha, rfl⟩ := mem_map.1 hn
  obtain ⟨k, hk⟩ := mem_values_iff.1 ha
  have hzero := h k
  rw [hk] at hzero
  exact hzero

omit [DecidableEq κ] in
/-- The sum of what is made of the values. -/
theorem total_filterMap {β : Type v} {f : α → Option β} {g : β → Nat} {g' : α → Nat}
    (hg : ∀ a, ((f a).map g).getD 0 = g' a) (m : OrdMap κ α) :
    (m.filterMap f).total g = m.total g' := by
  have hsum : ∀ es : List (κ × α), ((es.filterMap fun e => (f e.2).map (Prod.mk e.1)).map
      fun e => g e.2).sum = (es.map fun e => g' e.2).sum := by
    intro es
    induction es with
    | nil => rfl
    | cons e es ih =>
      rw [filterMap_cons, map_cons, sum_cons, ← hg e.2, ← ih]
      cases f e.2 with
      | none => simp
      | some b => simp
  simpa only [total, values, List.map_map, Function.comp_def, filterMap] using hsum m.entries

/-- Overwriting a key that is there adds no entry. -/
theorem size_set_of_has (a : α) (h : m.has k = true) :
    (m.set k a).size = m.size := by
  obtain ⟨b, hb⟩ := has_iff.1 h
  have hm : k ∈ m.entries.map fst :=
    mem_map.2 ⟨(k, b), mem_entries_iff.2 hb, rfl⟩
  rw [size, set, length_setEntry, if_pos hm, size]

/-- Deleting a key that is there shrinks the map. -/
theorem size_delete_lt (h : m.has k = true) :
    (m.delete k).size < m.size := by
  obtain ⟨a, ha⟩ := has_iff.1 h
  have hm : (k, a) ∈ m.entries := mem_entries_iff.2 ha
  exact length_filter_lt_length_iff_exists.2 ⟨(k, a), hm, by simp⟩

/-- Deleting never grows the map. -/
theorem size_delete_le (m : OrdMap κ α) (k : κ) : (m.delete k).size ≤ m.size :=
  length_filter_le _ _

/-- Two maps that amount to the same under each key have the same sum. -/
theorem total_congr {f : α → Nat} {m n : OrdMap κ α}
    (h : ∀ k, ((m.get? k).map f).getD 0 = ((n.get? k).map f).getD 0) : m.total f = n.total f := by
  induction hsize : m.size using Nat.strongRecOn generalizing m n with
  | ind size ih =>
    by_cases hkey : ∃ k, m.has k = true
    · obtain ⟨k, hk⟩ := hkey
      have hrest : (m.delete k).total f = (n.delete k).total f := by
        refine ih _ (hsize ▸ size_delete_lt hk) (fun k' => ?_) rfl
        rw [get?_delete, get?_delete]
        by_cases hsame : k' = k
        · rw [if_pos hsame, if_pos hsame]
        · rw [if_neg hsame, if_neg hsame]
          exact h k'
      rw [← total_delete f m k, ← total_delete f n k, hrest, h k]
    · have hzero : ∀ k, ((m.get? k).map f).getD 0 = 0 := by
        intro k
        cases hget : m.get? k with
        | none => rfl
        | some a => exact absurd ⟨k, has_of_get? hget⟩ hkey
      rw [total_eq_zero hzero, total_eq_zero fun k => (h k).symm.trans (hzero k)]

end Operations

end OrdMap

end RezChat
