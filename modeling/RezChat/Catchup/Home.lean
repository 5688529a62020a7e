/-
The durable home of a mailbox, as a device sees it.

The home stamps deposits with increasing sequence numbers and keeps, for each
device, a cursor. `mailbox.list` answers with the first deposits above the
cursor, in ascending order; `mailbox.cursorAck` moves the cursor forward and
never back. What is at or below the cursor may be pruned, and is never listed
again; what is above it stays.

Deposits arrive at any time. A device notices only at its next listing, so the
arrivals, and the time that goes by, are a schedule consumed by the listings.
-/
import Mathlib.Algebra.GroupWithZero.Nat
import Mathlib.Data.List.Sort
import Mathlib.Order.Basic

set_option autoImplicit false

namespace RezChat.Catchup

open List

/-- A deposit in the home log. A listing normally stamps it with its sequence
number; `seqUsable` is false for one listed without. -/
structure Deposit where
  seq : Nat
  seqUsable : Bool
  ciphertextB64 : String
  deriving DecidableEq

/-- What happens before a listing answers. -/
structure Arrival where
  deposits : List Deposit
  elapsedMs : Nat

/-- The home log of one mailbox, with the cursor of this device. -/
structure Home where
  deposits : List Deposit
  ascending : deposits.Pairwise (fun a b => a.seq < b.seq)
  cursor : Nat
  schedule : List Arrival

/-- File a deposit under its sequence number, unless one is there already. -/
def fileDeposit (d : Deposit) : List Deposit → List Deposit
  | [] => [d]
  | e :: es =>
    if d.seq < e.seq then d :: e :: es
    else if d.seq = e.seq then e :: es
    else e :: fileDeposit d es

theorem mem_fileDeposit_of_mem {d e : Deposit} :
    ∀ {es : List Deposit}, e ∈ es → e ∈ fileDeposit d es
  | e' :: es, h => by
    rw [fileDeposit]
    split
    · exact mem_cons_of_mem _ h
    · split
      · exact h
      · rcases mem_cons.1 h with rfl | h
        · exact mem_cons_self
        · exact mem_cons_of_mem _ (mem_fileDeposit_of_mem h)

theorem mem_of_mem_fileDeposit {d e : Deposit} :
    ∀ {es : List Deposit}, e ∈ fileDeposit d es → e = d ∨ e ∈ es
  | [], h => by simpa [fileDeposit] using h
  | e' :: es, h => by
    rw [fileDeposit] at h
    split at h
    · exact mem_cons.1 h
    · split at h
      · exact Or.inr h
      · rcases mem_cons.1 h with rfl | h
        · exact Or.inr mem_cons_self
        · exact (mem_of_mem_fileDeposit h).imp id (mem_cons_of_mem _)

theorem ascending_fileDeposit (d : Deposit) :
    ∀ {es : List Deposit}, es.Pairwise (fun a b => a.seq < b.seq) →
      (fileDeposit d es).Pairwise (fun a b => a.seq < b.seq)
  | [], _ => pairwise_singleton _ _
  | e :: es, h => by
    rw [pairwise_cons] at h
    rw [fileDeposit]
    split
    · rename_i hlt
      refine pairwise_cons.2 ⟨fun x hx => ?_, pairwise_cons.2 h⟩
      rcases mem_cons.1 hx with rfl | hx
      · exact hlt
      · exact lt_trans hlt (h.1 x hx)
    · split
      · exact pairwise_cons.2 h
      · rename_i hlt hne
        refine pairwise_cons.2 ⟨fun x hx => ?_, ascending_fileDeposit d h.2⟩
        rcases mem_of_mem_fileDeposit hx with rfl | hx
        · omega
        · exact h.1 x hx

/-- File a batch of deposits. -/
def fileDeposits (ds es : List Deposit) : List Deposit := ds.foldl (fun es d => fileDeposit d es) es

theorem ascending_fileDeposits (ds : List Deposit) {es : List Deposit}
    (h : es.Pairwise (fun a b => a.seq < b.seq)) :
    (fileDeposits ds es).Pairwise (fun a b => a.seq < b.seq) := by
  induction ds generalizing es with
  | nil => exact h
  | cons d ds ih => exact ih (ascending_fileDeposit d h)

theorem mem_fileDeposits_of_mem {e : Deposit} (ds : List Deposit) {es : List Deposit}
    (h : e ∈ es) : e ∈ fileDeposits ds es := by
  induction ds generalizing es with
  | nil => exact h
  | cons d ds ih => exact ih (mem_fileDeposit_of_mem h)

namespace Home

/-- The deposits above the cursor. -/
def above (h : Home) : List Deposit := h.deposits.filter (fun d => decide (h.cursor < d.seq))

/-- Deposits arrive. -/
def arrive (h : Home) (ds : List Deposit) : Home :=
  { h with deposits := fileDeposits ds h.deposits
           ascending := ascending_fileDeposits ds h.ascending }

/-- What was due before a listing has happened, and the time it took. -/
def catchUp (h : Home) : Home × Nat :=
  match h.schedule with
  | [] => (h, 0)
  | a :: rest => ({ h.arrive a.deposits with schedule := rest }, a.elapsedMs)

/-- The answer to `mailbox.list`. -/
def page (h : Home) (limit : Nat) : List Deposit := h.above.take limit

/-- `mailbox.cursorAck`: the cursor only moves forward. -/
def cursorAck (h : Home) (throughSeq : Nat) : Home :=
  { h with cursor := max h.cursor throughSeq }

/-- The deposits a device may still be listed: those above its cursor and those
that have yet to arrive. -/
def backlog (h : Home) : Nat :=
  h.above.length + (h.schedule.map fun a => a.deposits.length).sum

variable {h : Home} {d : Deposit}

theorem mem_above : d ∈ h.above ↔ d ∈ h.deposits ∧ h.cursor < d.seq := by
  rw [above, mem_filter, decide_eq_true_eq]

theorem above_ascending (h : Home) : h.above.Pairwise (fun a b => a.seq < b.seq) :=
  h.ascending.sublist filter_sublist

theorem page_ascending (h : Home) (limit : Nat) :
    (h.page limit).Pairwise (fun a b => a.seq < b.seq) :=
  h.above_ascending.sublist (take_sublist _ _)

theorem page_above {limit : Nat} (hd : d ∈ h.page limit) :
    d ∈ h.deposits ∧ h.cursor < d.seq :=
  mem_above.1 (mem_of_mem_take hd)

/-- **A page has no holes.** A deposit above the cursor and not above some listed
one is listed itself. -/
theorem page_downward {limit : Nat} {d e : Deposit} (hd : d ∈ h.page limit)
    (he : e ∈ h.deposits) (hc : h.cursor < e.seq) (hle : e.seq ≤ d.seq) :
    e ∈ h.page limit := by
  have hea : e ∈ h.above := mem_above.2 ⟨he, hc⟩
  rw [← take_append_drop limit h.above, List.mem_append] at hea
  rcases hea with hea | hea
  · exact hea
  · -- behind the page only larger numbers stand
    have hsorted := h.above_ascending
    rw [← take_append_drop limit h.above, pairwise_append] at hsorted
    have := hsorted.2.2 d hd e hea
    omega

@[simp] theorem catchUp_cursor (h : Home) : h.catchUp.1.cursor = h.cursor := by
  unfold catchUp
  split <;> rfl

/-- What was there stays there. -/
theorem mem_catchUp (hd : d ∈ h.deposits) :
    d ∈ h.catchUp.1.deposits := by
  unfold catchUp
  split
  · exact hd
  · exact mem_fileDeposits_of_mem _ hd

theorem length_filter_fileDeposits_le (p : Deposit → Bool) (ds : List Deposit) :
    ∀ es : List Deposit, ((fileDeposits ds es).filter p).length ≤
      (es.filter p).length + ds.length := by
  have one : ∀ (d : Deposit) (es : List Deposit),
      ((fileDeposit d es).filter p).length ≤ (es.filter p).length + 1 := by
    intro d es
    induction es with
    | nil =>
      rw [fileDeposit]
      exact le_trans (length_filter_le _ _) (by simp)
    | cons e es ih =>
      rw [fileDeposit]
      split
      · rw [filter_cons]
        split
        · exact le_refl _
        · exact Nat.le_succ _
      · split
        · exact Nat.le_succ _
        · rw [filter_cons, filter_cons]
          split
          · simp only [length_cons]
            omega
          · exact ih
  induction ds with
  | nil => exact fun es => le_refl _
  | cons d ds ih =>
    intro es
    have h₁ := ih (fileDeposit d es)
    have h₂ := one d es
    simp only [fileDeposits, foldl_cons, length_cons] at h₁ ⊢
    omega

/-- A listing only turns arrivals into deposits. -/
theorem backlog_catchUp (h : Home) : h.catchUp.1.backlog ≤ h.backlog := by
  unfold catchUp
  cases hs : h.schedule with
  | nil => exact le_refl _
  | cons a rest =>
    have := length_filter_fileDeposits_le (fun d => decide (h.cursor < d.seq)) a.deposits
      h.deposits
    simp only [backlog, above, arrive, hs, map_cons, sum_cons]
    omega

/-- Acknowledging a listed deposit leaves less to list. -/
theorem backlog_cursorAck (hd : d ∈ h.above) :
    (h.cursorAck d.seq).backlog < h.backlog := by
  have hlt : (h.cursorAck d.seq).above.length < h.above.length := by
    have hsub : (h.cursorAck d.seq).above =
        h.above.filter (fun e => decide (d.seq < e.seq)) := by
      simp only [above, cursorAck, List.filter_filter]
      refine filter_congr fun e _ => ?_
      rw [← Bool.decide_and]
      refine decide_eq_decide.2 ?_
      rw [Nat.max_lt]
      exact and_comm
    rw [hsub]
    exact length_filter_lt_length_iff_exists.2 ⟨d, hd, by simp⟩
  simp only [backlog, cursorAck] at hlt ⊢
  omega

end Home

end RezChat.Catchup
