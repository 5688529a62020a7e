/-
The numbers of the account-state events.

The receiving side applies nothing that does not exceed what it has applied of the same device. So
an event that was applied and comes in again changes nothing; and two events of one number would be
one too few. The sending side makes sure that there are none: the links of the chain read and write
the counter one after the other, each number that a link is resolved with exceeds all before it, also
those of a process that has ended, and a call makes at most one event of the number that it was
given (`lamports`).

What carries the proof is whose the numbers are. A number that a link was resolved with is the
call's alone until it makes an event of it, or asks for another one.
-/
import RezChat.Devices.AccountApply

set_option autoImplicit false

namespace RezChat.Devices

open List OrdMap Proc RezChat.Task AccountStateEvent Receiver

/-! ## The receiving side -/

section Receiving

variable {ω : Type} {A : ApplyServices ω} {r : Receiver ω}

/-- What was applied does not exceed what was seen. -/
def Receiver.Recorded (r : Receiver ω) : Prop :=
  ∀ e ∈ r.applied, e.lamport ≤ r.seenLamport e.originDeviceId

/-- What is seen only grows when a higher number is noted. -/
theorem seenLamport_set (r : Receiver ω) {e : AccountStateEvent}
    (h : r.seenLamport e.originDeviceId < e.lamport) (originDeviceId : String) :
    r.seenLamport originDeviceId ≤
      { r with seen := r.seen.set e.originDeviceId e.lamport }.seenLamport originDeviceId := by
  show _ ≤ ((r.seen.set e.originDeviceId e.lamport).get? originDeviceId).getD 0
  rw [get?_set]
  by_cases horigin : originDeviceId = e.originDeviceId
  · rw [if_pos horigin, horigin]
    exact le_of_lt h
  · rw [if_neg horigin]
    exact le_refl _

/-- Whatever comes in, and however it ends, what was applied was seen. -/
theorem keeps_recorded (A : ApplyServices ω) (raw : RawStateEvent) :
    Keeps Recorded (applyInbound A raw) fun _ => True := by
  rw [applyInbound]
  cases new A.jsonLength raw with
  | error _ => exact holds_pure
  | ok event =>
    by_cases hverify : A.canVerify = false
    · simp only [if_pos hverify]
      exact holds_pure
    simp only [if_neg hverify]
    refine keeps_bind (Q := fun _ => True) (keeps_of_wp fun r h => ?_) fun sigOk _ => ?_
    · exact wp_await_read ⟨h, trivial⟩ h h
    by_cases hsig : sigOk = false
    · rw [if_pos hsig]
      exact holds_pure
    rw [if_neg hsig]
    by_cases hself : A.deviceId ≠ "" ∧ event.originDeviceId = A.deviceId
    · rw [if_pos hself]
      exact holds_pure
    rw [if_neg hself]
    refine keeps_of_wp fun r h => wp_bind (wp_await_read ?_ h h)
    by_cases hstale : event.lamport ≤ r.seenLamport event.originDeviceId
    · rw [if_pos hstale]
      exact wp_pure ⟨h, trivial⟩
    rw [if_neg hstale]
    -- the op is applied, and nothing is noted yet
    have hnotes : ∀ r' : Receiver ω, r'.Notes r.seen r.applied → r'.Recorded := by
      rintro r' ⟨hseen, happlied⟩ e he
      rw [seenLamport, hseen]
      exact h e (happlied ▸ he)
    refine wp_bind (wp_mono ((keeps_applyOp A r.seen r.applied event _).wp ⟨rfl, rfl⟩)
      (fun applied r' hr' => ?_) (fun r' hr' => hnotes r' hr') fun r' hr' => hnotes r' hr')
    cases applied with
    | false => exact wp_pure ⟨hnotes r' hr'.1, trivial⟩
    | true =>
      obtain ⟨hseen, happlied⟩ := hr'.1
      have hlt : r'.seenLamport event.originDeviceId < event.lamport := by
        rw [seenLamport, hseen]
        exact not_le.1 hstale
      have hset : ({ r' with seen := r'.seen.set event.originDeviceId event.lamport } :
          Receiver ω).Recorded := fun e he =>
        le_trans (hnotes r' hr'.1 e he) (seenLamport_set r' hlt e.originDeviceId)
      refine wp_bind (wp_await ?_ (hnotes r' hr'.1) hset (hnotes r' hr'.1))
      refine wp_bind (wp_modify (wp_pure ⟨fun e he => ?_, trivial⟩))
      rcases mem_cons.1 he with hevent | he
      · show e.lamport ≤ ((r'.seen.set _ _).get? _).getD 0
        rw [hevent, get?_set_self]
        exact le_refl _
      · exact hset e he

theorem recorded_after (A : ApplyServices ω) (rest : ω) (acts : List (ReceiverAct ω)) :
    (receiverAfter A rest acts).Recorded := by
  have hfresh : (fresh rest).Recorded := fun e he => absurd he not_mem_nil
  refine Runs.invariant_all (receiverStep A) (fun r act h => ?_) acts (fresh rest) hfresh
  cases act with
  | deliver raw fates => exact (keeps_recorded A raw).ending h fates
  | elsewhere f => exact h

/-- An event that does not exceed what was seen changes nothing, however the process ends. -/
theorem applyInbound_stale {raw : RawStateEvent} {e : AccountStateEvent}
    (hraw : new A.jsonLength raw = .ok e)
    (hseen : e.lamport ≤ r.seenLamport e.originDeviceId) (fates : List Fate) :
    (applyInbound A raw fates r).state = r := by
  refine wp_ending (I := fun r' => r' = r) ?_ fates
  rw [applyInbound, hraw]
  simp only
  by_cases hverify : A.canVerify = false
  · rw [if_pos hverify]
    exact wp_pure rfl
  rw [if_neg hverify]
  refine wp_bind (wp_await_read ?_ rfl rfl)
  split_ifs with hsig hself
  · exact wp_pure rfl
  · exact wp_pure rfl
  · refine wp_bind (wp_await_read ?_ rfl rfl)
    rw [if_pos hseen]
    exact wp_pure rfl

end Receiving

/-! ## The sending side -/

/-- Every event has a number of its own: the numbers that calls were given ascend, every event was
made of one of them, no two events of the same one, and nothing is sent that was not made so. -/
structure Sync.Distinct (s : Sync) : Prop where
  ascending : s.allocated.Pairwise (· > ·)
  numbered : ∀ e ∈ s.made, e.lamport ∈ s.allocated
  distinct : (s.made.map AccountStateEvent.lamport).Nodup
  emitted : ∀ e ∈ s.emitted, e ∈ s.made

/-- The number that a call was given and has not used. -/
def Sync.Holds (s : Sync) (i : Nat) (lamport : Int) : Prop := s.settled.get? i = some (some lamport)

/-- What holds between two steps. No number that was given exceeds the counter, and one that is not
used yet is one call's. -/
structure Sync.Numbering (s : Sync) : Prop where
  law : s.Distinct
  counted : ∀ n ∈ s.allocated, n ≤ s.lamport.getD 0
  read : ∀ current, s.reading = some current → current = s.lamport.getD 0
  given : ∀ i n, s.Holds i n → n ∈ s.allocated
  one : ∀ i j n, s.Holds i n → s.Holds j n → i = j
  unused : ∀ i n, s.Holds i n → ∀ e ∈ s.made, e.lamport ≠ n
  chain : s.lamportChain.Nodup
  waiting : ∀ i n, s.Holds i n → i ∉ s.lamportChain
  kept : ∀ k p, s.pending.get? k = some p → p.event ∈ s.made

/-- What a call may rely on: its number stays its own once its link is settled, and what was made
stays made. -/
structure Sync.Leaves (i : Nat) (s s' : Sync) : Prop where
  settled : i ∉ s.lamportChain → i ∉ s'.lamportChain ∧ s'.settled.get? i = s.settled.get? i
  made : ∀ e ∈ s.made, e ∈ s'.made

def lamportDiscipline : Discipline Sync where
  inv := Sync.Numbering
  rely := Sync.Leaves
  refl _ _ := ⟨fun h => ⟨h, rfl⟩, fun _ h => h⟩
  trans h h' := by
    refine ⟨fun hi => ?_, fun e he => h'.made e (h.made e he)⟩
    obtain ⟨hi', hsame⟩ := h.settled hi
    obtain ⟨hi'', hsame'⟩ := h'.settled hi'
    exact ⟨hi'', hsame'.trans hsame⟩

section Sending

variable {s : Sync} {i : Nat}

section

variable (h : s.Numbering)
include h

/-- A change of what no number is about. -/
theorem numbering_of_same {s' : Sync} (hlamport : s'.lamport = s.lamport)
    (hchain : s'.lamportChain = s.lamportChain) (hreading : s'.reading = s.reading) (hsettled : s'.settled = s.settled)
    (hallocated : s'.allocated = s.allocated) (hmade : s'.made = s.made)
    (hemitted : ∀ e ∈ s'.emitted, e ∈ s.made)
    (hpending : ∀ k p, s'.pending.get? k = some p → p.event ∈ s.made) : s'.Numbering := by
  have hholds : ∀ j n, s'.Holds j n ↔ s.Holds j n := fun j n => by
    rw [Sync.Holds, Sync.Holds, hsettled]
  refine ⟨⟨?_, ?_, ?_, ?_⟩, ?_, ?_, ?_, ?_, ?_, ?_, ?_, ?_⟩
  · rw [hallocated]
    exact h.law.ascending
  · rw [hmade, hallocated]
    exact h.law.numbered
  · rw [hmade]
    exact h.law.distinct
  · rw [hmade]
    exact hemitted
  · rw [hallocated, hlamport]
    exact h.counted
  · rw [hreading, hlamport]
    exact h.read
  · rw [hallocated]
    exact fun j n hj => h.given j n ((hholds j n).1 hj)
  · exact fun j k n hj hk => h.one j k n ((hholds j n).1 hj) ((hholds k n).1 hk)
  · rw [hmade]
    exact fun j n hj => h.unused j n ((hholds j n).1 hj)
  · rw [hchain]
    exact h.chain
  · rw [hchain]
    exact fun j n hj => h.waiting j n ((hholds j n).1 hj)
  · rw [hmade]
    exact hpending

/-! ### The chain -/

/-- A call that asks for a number gives up the one it has. -/
theorem numbering_enqueue (hi : i ∉ s.lamportChain) :
    (s.enqueue i).Numbering := by
  have hholds : ∀ j n, (s.enqueue i).Holds j n → j ≠ i ∧ s.Holds j n := fun j n hj => by
    have hget : (s.settled.delete i).get? j = some (some n) := hj
    by_cases hij : j = i
    · rw [hij, get?_delete_self] at hget
      cases hget
    · rw [get?_delete_of_ne _ hij] at hget
      exact ⟨hij, hget⟩
  refine ⟨⟨h.law.ascending, h.law.numbered, h.law.distinct, h.law.emitted⟩, h.counted, h.read,
    fun j n hj => h.given j n (hholds j n hj).2, fun j k n hj hk => ?_, fun j n hj => ?_, ?_,
    fun j n hj => ?_, h.kept⟩
  · exact h.one j k n (hholds j n hj).2 (hholds k n hk).2
  · exact h.unused j n (hholds j n hj).2
  · refine nodup_append.2 ⟨h.chain, nodup_singleton i, fun j hj k hk => ?_⟩
    rw [mem_singleton.1 hk]
    exact fun hji => hi (hji ▸ hj)
  · obtain ⟨hij, hheld⟩ := hholds j n hj
    show j ∉ s.lamportChain ++ [i]
    rw [mem_append, mem_singleton, not_or]
    exact ⟨h.waiting j n hheld, hij⟩

/-- A link is rejected. -/
theorem numbering_reject {rest : List Nat} (hchain : s.lamportChain = i :: rest) :
    (s.settle i rest none).Numbering := by
  have hnodup := nodup_cons.1 (hchain ▸ h.chain)
  have hholds : ∀ j n, (s.settle i rest none).Holds j n → s.Holds j n := fun j n hj => by
    have hget : (s.settled.set i none).get? j = some (some n) := hj
    rw [get?_set] at hget
    by_cases hij : j = i
    · rw [if_pos hij] at hget
      cases hget
    · rw [if_neg hij] at hget
      exact hget
  refine ⟨⟨h.law.ascending, h.law.numbered, h.law.distinct, h.law.emitted⟩, h.counted,
    fun current hcurrent => ?_, fun j n hj => h.given j n (hholds j n hj), fun j k n hj hk => ?_,
    fun j n hj => ?_, hnodup.2, fun j n hj hmem => ?_, h.kept⟩
  · cases hcurrent
  · exact h.one j k n (hholds j n hj) (hholds k n hk)
  · exact h.unused j n (hholds j n hj)
  · have hwaiting := h.waiting j n (hholds j n hj)
    rw [hchain] at hwaiting
    exact hwaiting (mem_cons_of_mem i hmem)

/-- The counter may be ahead of what was given. -/
theorem numbering_ahead (hreading : s.reading = none) {n : Int}
    (hn : s.lamport.getD 0 ≤ n) : ({ s with lamport := some n } : Sync).Numbering := by
  refine ⟨⟨h.law.ascending, h.law.numbered, h.law.distinct, h.law.emitted⟩,
    fun m hm => le_trans (h.counted m hm) hn, fun current hcurrent => ?_, h.given, h.one, h.unused,
    h.chain, h.waiting, h.kept⟩
  have hcurrent : s.reading = some current := hcurrent
  rw [hreading] at hcurrent
  cases hcurrent

/-- A link is resolved with the number that it wrote, which exceeds all before it. -/
theorem numbering_resolve {current : Int} (hreading : s.reading = some current)
    {rest : List Nat} (hchain : s.lamportChain = i :: rest) :
    ({ s.settle i rest (some (current + 1)) with
      lamport := some (current + 1)
      allocated := (current + 1) :: s.allocated } : Sync).Numbering := by
  have hcurrent := h.read current hreading
  have hnodup := nodup_cons.1 (hchain ▸ h.chain)
  have hfresh : ∀ n ∈ s.allocated, n < current + 1 := fun n hn => by
    have hle := h.counted n hn
    omega
  have hholds : ∀ j n, (s.settled.set i (some (current + 1))).get? j = some (some n) →
      (j = i ∧ n = current + 1) ∨ (j ≠ i ∧ s.Holds j n) := fun j n hj => by
    rw [get?_set] at hj
    by_cases hij : j = i
    · rw [if_pos hij] at hj
      exact .inl ⟨hij, (Option.some_inj.1 (Option.some_inj.1 hj)).symm⟩
    · rw [if_neg hij] at hj
      exact .inr ⟨hij, hj⟩
  refine ⟨⟨pairwise_cons.2 ⟨hfresh, h.law.ascending⟩, fun e he => ?_, h.law.distinct,
    h.law.emitted⟩, fun n hn => ?_, fun current' hcurrent' => ?_, fun j n hj => ?_,
    fun j k n hj hk => ?_, fun j n hj e he => ?_, hnodup.2, fun j n hj hmem => ?_, h.kept⟩
  · exact mem_cons_of_mem _ (h.law.numbered e he)
  · rcases mem_cons.1 hn with hn | hn
    · exact le_of_eq hn
    · exact le_of_lt (hfresh n hn)
  · cases hcurrent'
  · rcases hholds j n hj with ⟨-, hn⟩ | ⟨-, hj⟩
    · exact mem_cons.2 (.inl hn)
    · exact mem_cons_of_mem _ (h.given j n hj)
  · rcases hholds j n hj with ⟨hji, hn⟩ | ⟨-, hj⟩
    · rcases hholds k n hk with ⟨hki, -⟩ | ⟨-, hk⟩
      · exact hji.trans hki.symm
      · have hlt := hfresh n (h.given k n hk)
        omega
    · rcases hholds k n hk with ⟨-, hn⟩ | ⟨-, hk⟩
      · have hlt := hfresh n (h.given j n hj)
        omega
      · exact h.one j k n hj hk
  · rcases hholds j n hj with ⟨-, hn⟩ | ⟨-, hj⟩
    · have hlt := hfresh e.lamport (h.law.numbered e he)
      omega
    · exact h.unused j n hj e he
  · rcases hholds j n hj with ⟨hji, -⟩ | ⟨-, hj⟩
    · exact hnodup.1 (hji ▸ hmem)
    · have hwaiting := h.waiting j n hj
      rw [hchain] at hwaiting
      exact hwaiting (mem_cons_of_mem i hmem)

/-- **The chain goes on.** -/
theorem numbering_link (r : Response) : (s.link r).Numbering := by
  cases hchain : s.lamportChain with
  | nil =>
    rw [Sync.link, hchain]
    exact h
  | cons i rest =>
    cases hreading : s.reading with
    | none =>
      cases r with
      | ok =>
        have hread : s.link .ok = { s with reading := some (s.lamport.getD 0) } := by
          rw [Sync.link, hchain, hreading]
        rw [hread]
        refine ⟨⟨h.law.ascending, h.law.numbered, h.law.distinct, h.law.emitted⟩, h.counted,
          fun current hcurrent => ?_, h.given, h.one, h.unused, h.chain, h.waiting, h.kept⟩
        exact (Option.some_inj.1 hcurrent).symm
      | throws =>
        rw [Sync.link, hchain, hreading]
        exact numbering_reject h hchain
      | throwsLate =>
        rw [Sync.link, hchain, hreading]
        exact numbering_reject h hchain
    | some current =>
      cases r with
      | ok =>
        rw [Sync.link, hchain, hreading]
        exact numbering_resolve h hreading hchain
      | throws =>
        rw [Sync.link, hchain, hreading]
        exact numbering_reject h hchain
      | throwsLate =>
        rw [Sync.link, hchain, hreading]
        refine numbering_ahead (numbering_reject h hchain) rfl ?_
        have hcurrent := h.read current hreading
        show s.lamport.getD 0 ≤ current + 1
        omega

end

/-- The chain settles the link of the call that is first in it. -/
theorem leaves_link (s : Sync) (r : Response) (j : Nat) : Sync.Leaves j s (s.link r) := by
  have hsettle : ∀ k rest result, s.lamportChain = k :: rest → j ∉ s.lamportChain →
      j ∉ rest ∧ (s.settled.set k result).get? j = s.settled.get? j := by
    intro k rest result hchain hj
    rw [hchain, mem_cons, not_or] at hj
    exact ⟨hj.2, get?_set_of_ne _ _ hj.1⟩
  cases hchain : s.lamportChain with
  | nil =>
    rw [Sync.link, hchain]
    exact ⟨fun h => ⟨h, rfl⟩, fun _ h => h⟩
  | cons i rest =>
    rw [Sync.link, hchain]
    cases s.reading with
    | none =>
      cases r with
      | ok =>
        -- the link has only read
        refine ⟨fun h => ⟨?_, rfl⟩, fun _ h => h⟩
        show j ∉ i :: rest
        rw [← hchain]
        exact h
      | throws => exact ⟨hsettle i rest none hchain, fun _ h => h⟩
      | throwsLate => exact ⟨hsettle i rest none hchain, fun _ h => h⟩
    | some current =>
      cases r with
      | ok => exact ⟨hsettle i rest _ hchain, fun _ h => h⟩
      | throws => exact ⟨hsettle i rest none hchain, fun _ h => h⟩
      | throwsLate => exact ⟨hsettle i rest none hchain, fun _ h => h⟩

/-! ### The events -/

variable {e : AccountStateEvent}

section

variable (h : s.Numbering)
include h

/-- A call makes an event of the number that it was given. -/
theorem numbering_make (hi : s.Holds i e.lamport) :
    (s.make i e).Numbering := by
  have hholds : ∀ j n, (s.settled.delete i).get? j = some (some n) → j ≠ i ∧ s.Holds j n := by
    intro j n hj
    by_cases hij : j = i
    · rw [hij, get?_delete_self] at hj
      cases hj
    · rw [get?_delete_of_ne _ hij] at hj
      exact ⟨hij, hj⟩
  refine ⟨⟨h.law.ascending, fun e' he' => ?_, ?_, fun e' he' => ?_⟩, h.counted, h.read,
    fun j n hj => h.given j n (hholds j n hj).2, fun j k n hj hk => ?_, fun j n hj e' he' => ?_,
    h.chain, fun j n hj => h.waiting j n (hholds j n hj).2, fun k p hp => mem_cons_of_mem e (h.kept k p hp)⟩
  · rcases mem_cons.1 he' with rfl | he'
    · exact h.given i _ hi
    · exact h.law.numbered e' he'
  · refine nodup_cons.2 ⟨fun hmem => ?_, h.law.distinct⟩
    obtain ⟨e', he', hsame⟩ := mem_map.1 hmem
    exact h.unused i _ hi e' he' hsame
  · exact mem_cons_of_mem e (h.law.emitted e' he')
  · exact h.one j k n (hholds j n hj).2 (hholds k n hk).2
  · obtain ⟨hij, hheld⟩ := hholds j n hj
    rcases mem_cons.1 he' with rfl | he'
    · exact fun hsame => hij (h.one j i n hheld (hsame ▸ hi))
    · exact h.unused j n hheld e' he'

/-- What was made may be sent, any number of times. -/
theorem numbering_emit (he : e ∈ s.made) :
    (s.emit e).Numbering := by
  refine numbering_of_same h rfl rfl rfl rfl rfl rfl (fun e' he' => ?_) h.kept
  rcases mem_cons.1 he' with rfl | he'
  · exact he
  · exact h.law.emitted e' he'

/-- It may be kept, too. -/
theorem numbering_keep (he : e ∈ s.made)
    (key : String × Int) (attempts : Nat) :
    ({ s with pending := s.pending.set key ⟨e, attempts⟩ } : Sync).Numbering := by
  refine numbering_of_same h rfl rfl rfl rfl rfl rfl h.law.emitted fun k p hp => ?_
  have hget : (s.pending.set key ⟨e, attempts⟩).get? k = some p := hp
  rw [get?_set] at hget
  by_cases hk : k = key
  · rw [if_pos hk] at hget
    rw [← Option.some_inj.1 hget]
    exact he
  · rw [if_neg hk] at hget
    exact h.kept k p hget

theorem numbering_drop (key : String × Int) :
    ({ s with pending := s.pending.delete key } : Sync).Numbering := by
  refine numbering_of_same h rfl rfl rfl rfl rfl rfl h.law.emitted fun k p hp => ?_
  have hget : (s.pending.delete key).get? k = some p := hp
  by_cases hk : k = key
  · rw [hk, get?_delete_self] at hget
    cases hget
  · rw [get?_delete_of_ne _ hk] at hget
    exact h.kept k p hget

end

end Sending

/-! ### The calls

A call that is under way has no link that is not settled, but while it waits for its number. -/

section Calls

variable {i : Nat} {s₀ s : Sync} {K : Sync → Prop}

abbrev Fine (i : Nat) (K : Sync → Prop) : Sync → Sync → Prop := lamportDiscipline.Fine i K

/-- The call does not wait for its link. -/
def Idle (i : Nat) (s : Sync) : Prop := i ∉ s.lamportChain

/-- It was given a number. -/
def Given (i : Nat) (n : Int) (s : Sync) : Prop := Idle i s ∧ s.Holds i n

/-- It has made an event. -/
def Made (i : Nat) (e : AccountStateEvent) (s : Sync) : Prop := Idle i s ∧ e ∈ s.made

theorem owns_true (i : Nat) : lamportDiscipline.Owns i fun _ => True := fun _ _ _ _ => trivial

theorem owns_idle (i : Nat) : lamportDiscipline.Owns i (Idle i) := fun _ _ h hs => (h.settled hs).1

theorem owns_given (i : Nat) (n : Int) : lamportDiscipline.Owns i (Given i n) := fun _ _ h hs => by
  obtain ⟨hidle, hsame⟩ := h.settled hs.1
  exact ⟨hidle, hsame.trans hs.2⟩

theorem owns_made (i : Nat) (e : AccountStateEvent) : lamportDiscipline.Owns i (Made i e) :=
  fun s s' h hs => ⟨owns_idle i s s' h hs.1, h.made e hs.2⟩

/-- A write that leaves the chain, and what it was resolved with, alone. -/
theorem fine_of_write {K' : Sync → Prop} {s' : Sync} (h : Fine i K s₀ s)
    (hinv : s.Numbering → K s → s'.Numbering) (hchain : s'.lamportChain = s.lamportChain)
    (hsettled : s'.settled = s.settled) (hmade : s'.made = s.made) (hK : K s → K' s') :
    Fine i K' s₀ s' := by
  refine h.changed (fun hs => hinv hs h.2) (fun j _ => ⟨fun hj => ?_, fun e he => ?_⟩) hK
  · rw [hchain, hsettled]
    exact ⟨hj, rfl⟩
  · rw [hmade]
    exact he

variable {α : Type}

theorem keeping_answered (hown : lamportDiscipline.Owns i K) (a : α) :
    Keeping lamportDiscipline i K (answered a) := fun _ _ hs =>
  safe_awaited hown hs fun _ hs => hs

/-- An operation on the store that changes no number. -/
theorem keeping_await {f : Sync → α × Sync} (hown : lamportDiscipline.Owns i K)
    (hf : ∀ s, Fine i K s s → Fine i K s (f s).2) :
    Keeping lamportDiscipline i K (await f) := fun _ _ hs => safe_awaited hown hs hf

/-- The link of the call is settled when it goes on, or it has no number. -/
theorem safe_nextLamport (h : Fine i (Idle i) s₀ s) :
    Safe lamportDiscipline i (fun n => Fine i (Given i n)) (Fine i fun _ => True)
      (nextLamport i) s₀ s := by
  have hqueued : Fine i (fun _ => True) s₀ (s.enqueue i) := by
    refine h.changed (fun hs => numbering_enqueue hs h.2) (fun j hj => ⟨fun hj' => ?_, fun _ he => he⟩)
      fun _ => trivial
    refine ⟨?_, get?_delete_of_ne _ hj⟩
    show j ∉ s.lamportChain ++ [i]
    rw [mem_append, mem_singleton, not_or]
    exact ⟨hj', hj⟩
  refine safe_modified (safe_paused (owns_true i) hqueued fun s h => safe_got ?_)
  cases hget : s.settled.get? i with
  | none => exact h
  | some result =>
    cases result with
    | none => exact h
    | some n => exact h.mono fun _ => ⟨h.1.1.waiting i n hget, hget⟩

theorem keeping_dispatch (e : AccountStateEvent) :
    Keeping lamportDiscipline i (Made i e) (dispatch e) := by
  refine (keeping_answered (owns_made i e) ()).bind fun _ => ?_
  refine keeping_await (owns_made i e) fun s h => ?_
  exact fine_of_write h (fun hs hK => numbering_emit hs hK.2) rfl rfl rfl fun hK => hK

theorem keeping_sent (e : AccountStateEvent) :
    Keeping lamportDiscipline i (Made i e) (sent e) :=
  ((keeping_dispatch e).bind fun _ => keeping_pure true).tryCatch (keeping_pure false)

theorem keeping_stashPending (inboxId : String) (e : AccountStateEvent) :
    Keeping lamportDiscipline i (Made i e) (stashPending inboxId e) := by
  refine (keeping_await (owns_made i e) fun s h => ?_).tryCatch (keeping_pure ())
  exact fine_of_write h (fun hs hK => numbering_keep hs hK.2 _ 0) rfl rfl rfl fun hK => hK

/-- By induction on the devices that are left. -/
theorem keeping_fanOut (direct : Bool) (e : AccountStateEvent) (targets : List StateTarget) :
    ∀ fannedOut, Keeping lamportDiscipline i (Made i e) (fanOut direct e targets fannedOut) := by
  induction targets with
  | nil => exact fun fannedOut => keeping_pure fannedOut
  | cons target targets ih =>
    intro fannedOut
    rw [fanOut]
    by_cases hinbox : target.inboxId = ""
    · rw [if_pos hinbox]
      exact ih fannedOut
    rw [if_neg hinbox]
    refine (keeping_sent e).bind fun ok => ?_
    by_cases hok : ok = true
    · rw [if_pos hok]
      exact ih (fannedOut + 1)
    rw [if_neg hok]
    by_cases hdirect : direct = true
    · rw [if_pos hdirect]
      exact ih fannedOut
    · rw [if_neg hdirect]
      exact (keeping_stashPending target.inboxId e).bind fun _ => ih fannedOut

/-- What a call that may ask for numbers has to keep up. If it fails it is at its end. -/
def Running (i : Nat) {α : Type} (t : Task Sync α) : Prop :=
  ∀ s₀ s, Fine i (Idle i) s₀ s →
    Safe lamportDiscipline i (fun _ => Fine i (Idle i)) (Fine i fun _ => True) t s₀ s

theorem running_of_keeping {t : Task Sync α}
    (h : Keeping lamportDiscipline i (Idle i) t) : Running i t := fun s₀ s hs =>
  Safe.mono (fun _ _ _ h => h) (fun _ _ h => h.mono fun _ => trivial) (h s₀ s hs)

theorem running_pure (a : α) : Running i (pure a : Task Sync α) := fun _ _ hs => hs

theorem Running.bind {α β : Type} {t : Task Sync α} {k : α → Task Sync β} (ht : Running i t)
    (hk : ∀ a, Running i (k a)) : Running i (t >>= k) := fun s₀ s hs =>
  safe_seq (ht s₀ s hs) fun a s₀ s h => hk a s₀ s h

theorem running_replicateTo (env : SyncEnv) (call : ReplicateCall) (siblings : List StateTarget) :
    Running i (replicateTo env i call siblings) := by
  rw [replicateTo]
  by_cases hkey : env.devicePublicKeyB64 = "" ∨ env.canSign = false
  · rw [if_pos hkey]
    exact running_pure 0
  rw [if_neg hkey]
  intro s₀ s hs
  refine safe_seq (safe_nextLamport hs) fun n s₀ s h => safe_got ?_
  have hsign : ∀ v, Keeping lamportDiscipline i (Given i n)
      (tryCatch (pure none) (compute v >>= fun sig : Option String =>
        pure (some (sig.getD "")))) := fun v =>
    ((keeping_compute (owns_given i n) v).bind fun _ => keeping_pure _).tryCatch
      (keeping_pure none)
  refine safe_seq (Safe.mono (fun _ _ _ h => h) (fun _ _ h => ?_) (hsign _ s₀ s h)) ?_
  · exact h.mono fun _ => trivial
  intro sig s₀ s' h
  cases sig with
  | none => exact h.mono fun hK => hK.1
  | some sig =>
    cases hnew : new env.jsonLength ⟨call.op, n, env.deviceId,
        env.devicePublicKeyB64, some call.payload, s.clockMs, sig⟩ with
    | error _ =>
      simp only [hnew]
      exact h.mono fun hK => hK.1
    | ok e =>
      simp only [hnew]
      have hn : e.lamport = n := (new_ok hnew).1
      have hmade : Fine i (Made i e) s₀ (s'.make i e) := by
        refine h.changed (fun hs => numbering_make hs (hn ▸ h.2.2)) (fun j hj => ⟨fun hj' => ?_, ?_⟩)
          fun hK => ⟨hK.1, mem_cons_self⟩
        · exact ⟨hj', get?_delete_of_ne _ hj⟩
        · exact fun e' he' => mem_cons_of_mem e he'
      have hsend := keeping_fanOut (i := i) call.targets.isSome e siblings 0 s₀ _ hmade
      exact safe_modified (Safe.mono (fun _ _ _ h => h.mono fun hK => hK.1)
        (fun _ _ h => h.mono fun _ => trivial) hsend)

theorem keeping_siblings (call : ReplicateCall) :
    Keeping lamportDiscipline i (Idle i) call.siblings := by
  rw [ReplicateCall.siblings]
  cases call.targets with
  | some targets => exact keeping_pure _
  | none => exact keeping_answered (owns_idle i) call.resolution

theorem running_replicate (env : SyncEnv) (call : ReplicateCall) :
    Running i (replicate env i call) := by
  intro s₀ s hs
  refine safe_got ?_
  by_cases henabled : s.isEnabled env = false
  · rw [if_pos henabled]
    exact hs
  rw [if_neg henabled]
  refine (running_of_keeping (keeping_siblings call)).bind (fun siblings => ?_) s₀ s hs
  cases siblings with
  | none => exact running_pure 0
  | some siblings =>
    cases siblings with
    | nil => exact running_pure 0
    | cons target targets => exact running_replicateTo env call (target :: targets)

/-! ### Sending again -/

theorem keeping_flushOne (allowed : List String) (key : String × Int) :
    Keeping lamportDiscipline i (Idle i) (flushOne allowed key) := by
  intro s₀ s hs
  have hread : Safe lamportDiscipline i
      (fun found s₀ s => Fine i (Idle i) s₀ s ∧ ∀ p, found = some p → p.event ∈ s.made)
      (Fine i (Idle i)) (await fun s => (s.pending.get? key, s)) s₀ s := by
    refine safe_waited (owns_idle i) hs fun r s hs => ?_
    have hkept : ∀ s', lamportDiscipline.inv s' → Sync.Leaves i s s' →
        ∀ p, s.pending.get? key = some p → p.event ∈ s'.made := fun s' _ hleaves p hp =>
      hleaves.made p.event (hs.1.1.kept key p hp)
    cases r with
    | ok =>
      refine ⟨hs.1, fun s' hs' hleaves => ⟨(owns_idle i).fine hs hs' hleaves, ?_⟩⟩
      exact hkept s' hs' hleaves
    | throws => exact safe_paused (owns_idle i) hs fun _ hs => hs
    | throwsLate => exact safe_paused (owns_idle i) hs fun _ hs => hs
  refine safe_seq hread fun found s₀ s h => ?_
  cases found with
  | none => exact h.1
  | some p =>
    have hmade : Fine i (Made i p.event) s₀ s := ⟨h.1.1, h.1.2, h.2 p rfl⟩
    have hdrop : Keeping lamportDiscipline i (Made i p.event)
        (await fun s => ((), { s with pending := s.pending.delete key })) :=
      keeping_await (owns_made i p.event) fun s h =>
        fine_of_write h (fun hs _ => numbering_drop hs key) rfl rfl rfl fun hK => hK
    have hagain : Keeping lamportDiscipline i (Made i p.event) (await fun s =>
        ((), { s with pending := s.pending.set key ⟨p.event, p.attempts + 1⟩ })) :=
      keeping_await (owns_made i p.event) fun s h =>
        fine_of_write h (fun hs hK => numbering_keep hs hK.2 key _) rfl rfl rfl fun hK => hK
    have hleave : ∀ {t : Task Sync Unit}, Keeping lamportDiscipline i (Made i p.event) t →
        Safe lamportDiscipline i (fun _ => Fine i (Idle i)) (Fine i (Idle i)) t s₀ s :=
      fun ht => Safe.mono (fun _ _ _ h => h.mono fun hK => hK.1) (fun _ _ h => h.mono fun hK => hK.1)
        (ht s₀ s hmade)
    show Safe lamportDiscipline i _ _ (if key.1 ∉ allowed then _ else _) s₀ s
    by_cases hallowed : key.1 ∉ allowed
    · rw [if_pos hallowed]
      exact hleave hdrop
    · rw [if_neg hallowed]
      refine hleave (((keeping_dispatch p.event).bind fun _ => hdrop).tryCatch ?_)
      by_cases hlast : maxSendAttempts ≤ p.attempts + 1
      · rw [if_pos hlast]
        exact hdrop
      · rw [if_neg hlast]
        exact hagain

theorem keeping_flushAll (allowed : List String) (keys : List (String × Int)) :
    Keeping lamportDiscipline i (Idle i) (flushAll allowed keys) := by
  induction keys with
  | nil => exact keeping_pure ()
  | cons key keys ih => exact (keeping_flushOne allowed key).bind fun _ => ih

theorem running_flushPending (env : SyncEnv) (resolution : Option (List StateTarget)) :
    Running i (flushPending env resolution) := by
  refine running_of_keeping fun s₀ s hs => safe_got ?_
  by_cases henabled : s.isEnabled env = false
  · rw [if_pos henabled]
    exact hs
  rw [if_neg henabled]
  refine (keeping_answered (owns_idle i) resolution).bind (fun targets => ?_) s₀ s hs
  cases targets with
  | none => exact keeping_pure ()
  | some targets =>
    refine ((keeping_await (owns_idle i) fun _ h => h).tryCatch (keeping_pure [])).bind ?_
    exact fun keys => keeping_flushAll _ keys

/-! ### Telling all -/

theorem running_replicateContacts (env : SyncEnv) (targets resolution : Option (List StateTarget))
    (contacts : List ContactToTell) :
    ∀ reconciled, Running i (replicateContacts env i targets resolution contacts reconciled) := by
  induction contacts with
  | nil => exact fun reconciled => running_pure reconciled
  | cons c contacts ih =>
    intro reconciled
    rw [replicateContacts]
    by_cases hskip : c.accountId = "" ∨ c.relationshipState ≠ "active"
    · rw [if_pos hskip]
      exact ih reconciled
    · rw [if_neg hskip]
      have hrelation : Keeping lamportDiscipline i (Idle i)
          (tryCatch (pure none) (answered c.relation)) :=
        (keeping_answered (owns_idle i) c.relation).tryCatch (keeping_pure none)
      refine (running_of_keeping hrelation).bind fun relation => ?_
      exact (running_replicate env _).bind fun _ => ih (reconciled + 1)

theorem running_replicateAllActiveContacts (env : SyncEnv)
    (targets resolution : Option (List StateTarget)) (contacts : List ContactToTell) :
    Running i (replicateAllActiveContacts env i targets resolution contacts) := by
  have hlist : Keeping lamportDiscipline i (Idle i)
      (tryCatch (pure none) (answered (some contacts))) :=
    (keeping_answered (owns_idle i) _).tryCatch (keeping_pure none)
  refine (running_of_keeping hlist).bind fun list => ?_
  cases list with
  | none => exact running_pure 0
  | some list => exact running_replicateContacts env targets resolution list 0

theorem running_reconcileToSiblings (env : SyncEnv) (resolution : Option (List StateTarget))
    (contacts : List ContactToTell) : Running i (reconcileToSiblings env i resolution contacts) := by
  intro s₀ s hs
  refine safe_got ?_
  by_cases henabled : s.isEnabled env = false
  · rw [if_pos henabled]
    exact hs
  rw [if_neg henabled]
  refine (running_of_keeping (keeping_await (owns_idle i) fun _ h => h)).bind
    (fun reconciledAt => ?_) s₀ s hs
  by_cases hthrottled : (reconciledAt.map fun atMs =>
      decide (s.clockMs - atMs < reconcileMinIntervalMs)).getD false = true
  · simp only [if_pos hthrottled]
    exact running_pure ()
  · simp only [if_neg hthrottled]
    refine (running_replicateAllActiveContacts env none resolution contacts).bind fun _ => ?_
    refine running_of_keeping (keeping_await (owns_idle i) fun s h => ?_)
    exact fine_of_write h (fun hs _ => numbering_of_same hs rfl rfl rfl rfl rfl rfl hs.law.emitted
      hs.kept) rfl rfl rfl fun hK => hK

theorem running_sendActivationBaseline (env : SyncEnv) (activationId : Option String)
    (target : StateTarget) (contacts : List ContactToTell) :
    Running i (sendActivationBaseline env i activationId target contacts) := by
  intro s₀ s hs
  refine safe_got ?_
  split_ifs
  · exact hs
  · exact hs
  · exact hs
  · refine (running_replicateAllActiveContacts env _ none contacts).bind (fun _ => ?_) s₀ s hs
    refine (running_of_keeping (keeping_await (owns_idle i) fun _ h => h)).bind fun _ => ?_
    refine (running_replicate env _).bind fun fannedOut => ?_
    by_cases hnone : fannedOut < 1
    · rw [if_pos hnone]
      exact running_pure _
    · rw [if_neg hnone]
      exact running_pure _

theorem running_requestActivationBaseline (env : SyncEnv) (activationId requestInboxId : Option String)
    (resolution : Option (List StateTarget)) :
    Running i (requestActivationBaseline env i activationId requestInboxId resolution) := by
  intro s₀ s hs
  refine safe_got ?_
  split_ifs
  · exact hs
  · exact (running_replicate env _).bind (fun _ => running_pure ()) s₀ s hs

theorem running_task (env : SyncEnv) (c : SyncCall) : Running i (c.task env i) := by
  cases c with
  | replicate call => exact (running_replicate env call).bind fun _ => running_pure ()
  | flushPending resolution => exact running_flushPending env resolution
  | reconcile resolution contacts => exact running_reconcileToSiblings env resolution contacts
  | sendActivationBaseline activationId target contacts =>
    exact (running_sendActivationBaseline env activationId target contacts).bind fun _ =>
      running_pure ()
  | requestActivationBaseline activationId requestInboxId resolution =>
    exact running_requestActivationBaseline env activationId requestInboxId resolution

end Calls

/-! ### Every run -/

section Runs

variable {env : SyncEnv}

theorem holds_none {s : Sync} (h : s.settled = empty) (i : Nat) (n : Int) : ¬s.Holds i n := by
  rw [Sync.Holds, h, get?_empty]
  exact fun hsome => nomatch hsome

theorem numbering_fresh (clockMs : Int) : (Sync.fresh clockMs).Numbering := by
  have hnone := holds_none (s := Sync.fresh clockMs) rfl
  refine ⟨⟨Pairwise.nil, ?_, nodup_nil, ?_⟩, ?_, ?_, ?_, ?_, ?_, nodup_nil, ?_, ?_⟩
  · exact fun e he => absurd he not_mem_nil
  · exact fun e he => absurd he not_mem_nil
  · exact fun n hn => absurd hn not_mem_nil
  · exact fun current hcurrent => nomatch hcurrent
  · exact fun i n hi => absurd hi (hnone i n)
  · exact fun i j n hi => absurd hi (hnone i n)
  · exact fun i n hi => absurd hi (hnone i n)
  · exact fun i n hi => absurd hi (hnone i n)
  · exact fun k p hp => nomatch hp

/-- The counter, what is kept, and what was told outlive the process. -/
theorem numbering_restart {s : Sync} (h : s.Numbering) : s.restart.Numbering := by
  have hnone := holds_none (s := s.restart) rfl
  refine ⟨⟨h.law.ascending, h.law.numbered, h.law.distinct, h.law.emitted⟩, h.counted, ?_, ?_, ?_, ?_,
    nodup_nil, ?_, h.kept⟩
  · exact fun current hcurrent => nomatch hcurrent
  · exact fun i n hi => absurd hi (hnone i n)
  · exact fun i j n hi => absurd hi (hnone i n)
  · exact fun i n hi => absurd hi (hnone i n)
  · exact fun i n hi => absurd hi (hnone i n)

theorem SyncAct.allowed (a : SyncAct) : (a.toStep env).AllowedWhere lamportDiscipline Idle := by
  cases a with
  | call c =>
    intro i s hs hidle
    have hrun := running_task env c s s ⟨Discipline.settled_refl hs, hidle⟩
    exact Safe.mono (fun _ _ _ h => h.1) (fun _ _ h => h.1) hrun
  | resume i r => trivial
  | link r => exact fun s hs => ⟨numbering_link hs r, leaves_link s r⟩
  | runtime homeFanout accountMultiDevice =>
    refine fun s hs => ⟨?_, fun i => ⟨fun hi => ⟨hi, rfl⟩, fun _ he => he⟩⟩
    exact numbering_of_same hs rfl rfl rfl rfl rfl rfl hs.law.emitted hs.kept
  | tick clockMs =>
    refine fun s hs => ⟨?_, fun i => ⟨fun hi => ⟨hi, rfl⟩, fun _ he => he⟩⟩
    exact numbering_of_same hs rfl rfl rfl rfl rfl rfl hs.law.emitted hs.kept
  | restart => trivial

theorem ready_syncAfter (clockMs : Int) (acts : List SyncAct) :
    Pool.Ready lamportDiscipline Idle
      (Runs.run (syncStep env) (Pool.idle (Sync.fresh clockMs)) acts) := by
  have hidle : ∀ s : Sync, s.lamportChain = [] → ∀ i, Idle i s := fun s hs i hi => by
    rw [hs] at hi
    exact absurd hi not_mem_nil
  have hinit : Pool.Ready lamportDiscipline Idle (Pool.idle (Sync.fresh clockMs)) :=
    ⟨Pool.calm_idle (numbering_fresh clockMs), fun _ _ ht => (nomatch ht), fun i _ => hidle _ rfl i⟩
  refine Runs.invariant_all (syncStep env) (fun p a hp => ?_) acts _ hinit
  rw [syncStep]
  by_cases hblocked : a.Blocked p.state
  · rw [if_pos hblocked]
    exact hp
  · rw [if_neg hblocked]
    exact hp.step owns_idle (fun s hs => ⟨numbering_restart hs, hidle _ rfl⟩) a.allowed

end Runs

/-- A device whose signature is no secret. -/
def plainSyncEnv : SyncEnv where
  deviceId := "rez:dev:a"
  devicePublicKeyB64 := "A"
  sdkReady := true
  canSign := true
  jsonLength _ := 0
  signableBytes _ _ _ _ _ _ := ""
  signAccountStateEvent _ := some (some "sig")

/-- Services that do nothing. -/
def idleServices : ApplyServices Unit where
  deviceId := "rez:dev:b"
  jsonLength _ := 0
  canVerify := true
  verifyAccountStateEventSig _ := true
  clock _ := 0
  isEnabled _ := true
  baselineComplete := none
  ownAuthorityState := pure none
  sendActivationBaseline _ _ := pure ()
  deleteContact := none
  upsertPeerRelationship := none
  ensureActiveContact := none
  ensureKnownAccount := none
  directThreadIdForPeerLink := none
  ensureDirectThread := none
  upsertFromMessage := none

/-- A contact is removed on a device, which tells one other. -/
def removal (accountId : String) : SyncAct :=
  .call (.replicate ⟨some .contactRemove, { StatePayload.blank with accountId := some accountId },
    some [⟨"rez:dev:b", "inbox"⟩], none⟩)

/-- Two removals whose links are made before the first one reads, and a restart in between them and
a third one. -/
def overlapping : List SyncAct :=
  [.runtime true false, removal "x", removal "y", .link .ok, .link .ok, .link .ok, .link .ok,
    .resume 1 .ok, .resume 1 .ok, .resume 1 .ok, .resume 1 .ok, .resume 1 .ok, .resume 1 .ok,
    .restart, .runtime true false, removal "z", .link .ok, .link .ok,
    .resume 2 .ok, .resume 2 .ok, .resume 2 .ok, .resume 2 .ok, .resume 2 .ok, .resume 2 .ok]

def removalEvent : RawStateEvent :=
  ⟨some .contactRemove, 2, "rez:dev:a", "A", some { StatePayload.blank with accountId := some "y" }, 1,
    "sig"⟩

end RezChat.Devices
