/-
No body is sealed twice for a device.

A retry should find the bytes of the first attempt, dispatch the same ones, and leave a device
alone that is marked. That rests on three things: an attempt for a device does not begin while
another one for the same slot is under way, the slot still holds the bytes once they were
sealed, and it has not expired. The slot is lost when the write after the sealing fails or the
process dies before it, and after 72 hours, while an unacknowledged message is retried for as
long as it takes (`resealed_afterTtl`). Every attempt that begins in turn replays
(`run_replays`).
-/
import RezChat.Delivery.Fanout
import RezChat.Lib.Journal

set_option autoImplicit false

namespace RezChat.Delivery

open List Option OrdMap Sender DevicePhase LogEntry DeviceRun Fanout

/-! ## The law -/

/-- Under each key one body is sealed, only its bytes are dispatched, and none after the mark. -/
def SealedOnce : LogEntry → List LogEntry → Prop
  | .sealedFor key _, past => ∀ n, .sealedFor key n ∉ past
  | .dispatched key n, past => .sealedFor key n ∈ past ∧ .marked key ∉ past
  | .marked _, _ => True

/-! ## The condition -/

/-- An attempt that is between its lookup and its mark. -/
def DeviceRun.Busy (run : DeviceRun) : Prop :=
  match run.phase with
  | .evict | .sealing | .put _ | .dispatch _ | .settled (.handled _) => True
  | .lookup | .settled .alreadyDelivered | .settled .failed => False

instance (run : DeviceRun) : Decidable run.Busy := by
  unfold Busy
  split <;> infer_instance

instance (f : Fanout) : Decidable f.Live := by
  unfold Live
  split <;> infer_instance

/-- The keys of the attempts that are under way. -/
def Sender.busyKeys (w : Sender) : List String :=
  (w.fanouts.values.filter fun f => f.Live).flatMap fun f =>
    (f.devices.filter fun run => run.Busy).filterMap key

/-- The key that the next operation of a device looks up. -/
def Sender.lookupKey (w : Sender) (i k : Nat) : Option String :=
  match w.fanouts.get? i with
  | some f =>
    if f.phase = .sending then
      match f.devices[k]? with
      | some run => if run.phase = .lookup then run.key else none
      | none => none
    else none
  | none => none

def LogEntry.Seals (key : String) : LogEntry → Prop
  | .sealedFor key' _ => key' = key
  | _ => False

instance (key : String) (e : LogEntry) : Decidable (e.Seals key) := by
  unfold Seals
  split <;> infer_instance

/-- A body was sealed under the key. -/
def Sender.SealedUnder (w : Sender) (key : String) : Prop := ∃ e ∈ w.log, e.Seals key

/-- The slot holds bytes that have not expired. -/
def Sender.HoldsFresh (w : Sender) (key : String) : Prop :=
  ∃ e ∈ w.cache.get? key, ¬ e.Expired w.clock

/-- An attempt begins when no other one is under way for its slot, and the slot still holds what
was sealed for it. -/
def InTurn (w : Sender) : SenderEvent → Prop
  | .device i k .ok _ => ∀ key ∈ w.lookupKey i k,
      key ∉ w.busyKeys ∧ (w.SealedUnder key → w.HoldsFresh key)
  | _ => True

instance (w : Sender) (e : SenderEvent) : Decidable (InTurn w e) := by
  unfold InTurn SealedUnder HoldsFresh
  split <;> infer_instance

/-! ## The attempts -/

/-- The device `k` of the fan-out `i`, which is live. -/
def Sender.RunAt (w : Sender) (i k : Nat) (run : DeviceRun) : Prop :=
  ∃ f, w.fanouts.get? i = some f ∧ f.Live ∧ f.devices[k]? = some run

theorem mem_busyKeys {w : Sender} {i k : Nat} {run : DeviceRun} {key : String}
    (h : w.RunAt i k run) (hbusy : run.Busy) (hkey : run.key = some key) : key ∈ w.busyKeys := by
  obtain ⟨f, hf, hlive, hrun⟩ := h
  refine mem_flatMap.2 ⟨f, ?_, ?_⟩
  · exact mem_filter.2 ⟨mem_values_iff.2 ⟨i, hf⟩, decide_eq_true hlive⟩
  · refine mem_filterMap.2 ⟨run, ?_, hkey⟩
    exact mem_filter.2 ⟨mem_of_getElem? hrun, decide_eq_true hbusy⟩

/-- Before its lookup is followed up, an attempt has sealed nothing. -/
def DevicePhase.Bare : DevicePhase → Prop
  | .evict | .sealing => True
  | _ => False

/-- The bytes that an attempt is about to store or to dispatch. -/
def DevicePhase.bytes : DevicePhase → Option Sealed
  | .put s | .dispatch s => some s
  | _ => none

/-- An attempt that will dispatch. -/
def DevicePhase.Coming (p : DevicePhase) : Prop := p.Bare ∨ p.bytes.isSome = true

theorem DevicePhase.Coming.busy {run : DeviceRun} (h : run.phase.Coming) : run.Busy := by
  unfold Busy
  cases hphase : run.phase with
  | lookup => rw [hphase] at h; simp [Coming, Bare, bytes] at h
  | settled o => rw [hphase] at h; simp [Coming, Bare, bytes] at h
  | evict => trivial
  | sealing => trivial
  | put s => trivial
  | dispatch s => trivial

/-! ## The invariant -/

/-- The slots and the log. -/
structure SlotsKept (cache : OrdMap String FanoutEntry) (log : List LogEntry) : Prop where
  entries : ∀ key e, cache.get? key = some e → .sealedFor key e.sealedBody.number ∈ log
  marked : ∀ key e, .marked key ∈ log → cache.get? key = some e → e.deliveredOk = true
  markedSealed : ∀ key, .marked key ∈ log → ∃ n, .sealedFor key n ∈ log
  law : Journal.Throughout SealedOnce log

/-- One attempt, as far as the log goes. -/
structure RunKept (log : List LogEntry) (key : String) (p : DevicePhase) : Prop where
  unsealed : p.Bare → ∀ n, .sealedFor key n ∉ log
  sealedBytes : ∀ s, p.bytes = some s → .sealedFor key s.number ∈ log
  unmarked : p.Coming → .marked key ∉ log

/-- A fan-out that makes its marks. -/
def MarkingKept (log : List LogEntry) (f : Fanout) : Prop :=
  ∀ todo read, f.phase = .marking todo read →
    (∀ key ∈ todo, ∃ run ∈ f.devices, run.key = some key ∧ ∃ q, run.phase = .settled (.handled q)) ∧
      ∀ e key, read = some e → todo.head? = some key → .sealedFor key e.sealedBody.number ∈ log

structure Replaying (w : Sender) : Prop where
  slots : SlotsKept w.cache w.log
  runs : ∀ i k run key, w.RunAt i k run → run.key = some key → RunKept w.log key run.phase
  alone : ∀ i k run j l run' key, w.RunAt i k run → w.RunAt j l run' → run.key = some key →
    run'.key = some key → run.Busy → run'.Busy → i = j ∧ k = l
  marking : ∀ i f, w.fanouts.get? i = some f → MarkingKept w.log f
  begun : ∀ i f, w.fanouts.get? i = some f → i < w.begun

section Invariant

variable {w v : Sender} {log log' : List LogEntry} {key : String} {p : DevicePhase}

theorem RunKept.grows (h : RunKept log key p) (hsub : log ⊆ log')
    (hsealed : p.Bare → ∀ n, .sealedFor key n ∈ log' → .sealedFor key n ∈ log)
    (hmarked : p.Coming → .marked key ∈ log' → .marked key ∈ log) : RunKept log' key p where
  unsealed hbare n hn := h.unsealed hbare n (hsealed hbare n hn)
  sealedBytes s hs := hsub (h.sealedBytes s hs)
  unmarked hcoming hm := h.unmarked hcoming (hmarked hcoming hm)

/-- An attempt that has settled is bound by nothing. -/
theorem runKept_settled (log : List LogEntry) (key : String) (o : DeviceOutcome) :
    RunKept log key (.settled o) where
  unsealed h := h.elim
  sealedBytes s hs := absurd hs (by simp [bytes])
  unmarked h := by
    rcases h with h | h
    · exact h.elim
    · exact absurd h (by simp [bytes])

theorem MarkingKept.grows {f : Fanout} (h : MarkingKept log f) (hsub : log ⊆ log') :
    MarkingKept log' f := by
  intro todo read hphase
  obtain ⟨hhandled, hread⟩ := h todo read hphase
  exact ⟨hhandled, fun e key he hkey => hsub (hread e key he hkey)⟩

theorem runAt_put {i j l : Nat} {f : Fanout} {run : DeviceRun}
    (h : (w.put i f).RunAt j l run) :
    (j = i ∧ f.Live ∧ f.devices[l]? = some run) ∨ (j ≠ i ∧ w.RunAt j l run) := by
  obtain ⟨f', hf', hlive, hrun⟩ := h
  have hget : (w.fanouts.set i f).get? j = some f' := hf'
  rw [get?_set] at hget
  by_cases hj : j = i
  · rw [if_pos hj, some_inj] at hget
    rw [← hget] at hlive hrun
    exact .inl ⟨hj, hlive, hrun⟩
  · rw [if_neg hj] at hget
    exact .inr ⟨hj, f', hget, hlive, hrun⟩

/-- What is known of every fan-out but one, and of that one. -/
theorem forall_put {P : Nat → Fanout → Prop} {i : Nat} {f : Fanout}
    (hold : ∀ j g, w.fanouts.get? j = some g → P j g) (hnew : P i f) :
    ∀ j g, (w.put i f).fanouts.get? j = some g → P j g := by
  intro j g hg
  have hget : (w.fanouts.set i f).get? j = some g := hg
  rw [get?_set] at hget
  by_cases hj : j = i
  · rw [if_pos hj, some_inj] at hget
    rw [hj, ← hget]
    exact hnew
  · rw [if_neg hj] at hget
    exact hold j g hget

/-- An operation of one device. Only that device may have added to the log what the others are
bound by, and it becomes busy only if nobody else is. -/
theorem Replaying.device (h : Replaying w) {i k : Nat} {f : Fanout} {run : DeviceRun}
    (hf : w.fanouts.get? i = some f) (hsending : f.phase = .sending)
    (hrun : f.devices[k]? = some run) (hfanouts : v.fanouts = w.fanouts)
    (hbegun : v.begun = w.begun) (hsub : w.log ⊆ v.log)
    (hsealed : ∀ key n, .sealedFor key n ∈ v.log →
      .sealedFor key n ∈ w.log ∨ (run.key = some key ∧ run.Busy))
    (hmarked : ∀ key, .marked key ∈ v.log → .marked key ∈ w.log)
    (hslots : SlotsKept v.cache v.log)
    (hkept : ∀ key, run.key = some key → RunKept v.log key p)
    (hbusy : ∀ key, run.key = some key → ({ run with phase := p } : DeviceRun).Busy →
      run.Busy ∨ key ∉ w.busyKeys) :
    Replaying (v.putDevice i k f run p) := by
  have hlive : f.Live := by
    unfold Live
    rw [hsending]
    trivial
  have hat : w.RunAt i k run := ⟨f, hf, hlive, hrun⟩
  -- an attempt is the one that went on, or it is as it was
  have hcases : ∀ j l r, (v.putDevice i k f run p).RunAt j l r →
        (j = i ∧ l = k ∧ r = { run with phase := p }) ∨ (w.RunAt j l r ∧ ¬ (j = i ∧ l = k)) := by
    intro j l r hr
    rcases runAt_put hr with ⟨hj, -, hget⟩ | ⟨hj, f', hf', hlive', hget⟩
    · by_cases hl : l = k
      · rw [hl, getElem?_set_self (List.getElem?_eq_some_iff.1 hrun).1,
          some_inj] at hget
        exact .inl ⟨hj, hl, hget.symm⟩
      · rw [getElem?_set_ne (fun hkl => hl hkl.symm)] at hget
        exact .inr ⟨⟨f, by rw [hj]; exact hf, hlive, hget⟩, fun hjl => hl hjl.2⟩
    · rw [hfanouts] at hf'
      exact .inr ⟨⟨f', hf', hlive', hget⟩, fun hjl => hj hjl.1⟩
  refine ⟨hslots, fun j l r key hr hkey => ?_, fun j l r j' l' r' key hr hr' hkey hkey' hb hb' => ?_,
    ?_, ?_⟩
  · rcases hcases j l r hr with ⟨-, -, rfl⟩ | ⟨hold, hother⟩
    · exact hkept key hkey
    · refine (h.runs j l r key hold hkey).grows hsub (fun hbare n hn => ?_) fun _ => hmarked key
      rcases hsealed key n hn with hn | ⟨hsame, hrunbusy⟩
      · exact hn
      · exact absurd (h.alone j l r i k run key hold hat hkey hsame
          (Coming.busy (.inl hbare)) hrunbusy) hother
  · rcases hcases j l r hr with ⟨hj, hl, rfl⟩ | ⟨hold, hother⟩
    · rcases hcases j' l' r' hr' with ⟨hj', hl', rfl⟩ | ⟨hold', hother'⟩
      · exact ⟨hj.trans hj'.symm, hl.trans hl'.symm⟩
      · rcases hbusy key hkey hb with hrunbusy | hfree
        · have hsame := h.alone i k run j' l' r' key hat hold' hkey hkey' hrunbusy hb'
          exact absurd ⟨hsame.1.symm, hsame.2.symm⟩ hother'
        · exact absurd (mem_busyKeys hold' hb' hkey') hfree
    · rcases hcases j' l' r' hr' with ⟨-, -, rfl⟩ | ⟨hold', -⟩
      · rcases hbusy key hkey' hb' with hrunbusy | hfree
        · exact absurd (h.alone j l r i k run key hold hat hkey hkey' hb hrunbusy) hother
        · exact absurd (mem_busyKeys hold hb hkey) hfree
      · exact h.alone j l r j' l' r' key hold hold' hkey hkey' hb hb'
  · refine forall_put (fun j g hg => ?_) ?_
    · rw [hfanouts] at hg
      exact (h.marking j g hg).grows hsub
    · intro todo read hphase
      exact absurd (hsending.symm.trans hphase) (by simp)
  · refine forall_put (fun j g hg => ?_) ?_
    · rw [hfanouts] at hg
      show _ < v.begun
      rw [hbegun]
      exact h.begun j g hg
    · show _ < v.begun
      rw [hbegun]
      exact h.begun i f hf

/-- A fan-out goes on to its marks, or makes one, or ends. A mark is made of a device that it
has handled. -/
theorem Replaying.rephase (h : Replaying w) {i : Nat} {f f' : Fanout}
    (hf : w.fanouts.get? i = some f) (hlive : f.Live) (hdevices : f'.devices = f.devices)
    (hfanouts : v.fanouts = w.fanouts) (hbegun : v.begun = w.begun) (hsub : w.log ⊆ v.log)
    (hsealed : ∀ key n, .sealedFor key n ∈ v.log → .sealedFor key n ∈ w.log)
    (hmarked : ∀ key, .marked key ∈ v.log → .marked key ∈ w.log ∨
      ∃ run ∈ f.devices, run.key = some key ∧ ∃ q, run.phase = .settled (.handled q))
    (hslots : SlotsKept v.cache v.log) (hmarking : MarkingKept v.log f') :
    Replaying (v.put i f') := by
  have hcases : ∀ j l r, (v.put i f').RunAt j l r → w.RunAt j l r := by
    intro j l r hr
    rcases runAt_put hr with ⟨hj, -, hget⟩ | ⟨-, g, hg, hlive', hget⟩
    · rw [hdevices] at hget
      exact ⟨f, by rw [hj]; exact hf, hlive, hget⟩
    · rw [hfanouts] at hg
      exact ⟨g, hg, hlive', hget⟩
  refine ⟨hslots, fun j l r key hr hkey => ?_, fun j l r j' l' r' key hr hr' => ?_, ?_, ?_⟩
  · have hold := hcases j l r hr
    refine (h.runs j l r key hold hkey).grows hsub (fun _ n hn => hsealed key n hn)
      fun hcoming hm => ?_
    rcases hmarked key hm with hm | ⟨run, hmem, hsame, q, hhandled⟩
    · exact hm
    · -- the handled device would be another attempt for the slot
      obtain ⟨k, hk⟩ := mem_iff_getElem?.1 hmem
      have hat : w.RunAt i k run := ⟨f, hf, hlive, hk⟩
      have hbusy : run.Busy := by
        unfold Busy
        rw [hhandled]
        trivial
      obtain ⟨rfl, rfl⟩ := h.alone j l r i k run key hold hat hkey hsame hcoming.busy hbusy
      obtain ⟨g, hg, -, hgl⟩ := hold
      rw [hf, some_inj] at hg
      rw [← hg, hk, some_inj] at hgl
      rw [← hgl, hhandled] at hcoming
      exact absurd hcoming (by simp [Coming, Bare, bytes])
  · exact h.alone j l r j' l' r' key (hcases j l r hr) (hcases j' l' r' hr')
  · refine forall_put (fun j g hg => ?_) hmarking
    rw [hfanouts] at hg
    exact (h.marking j g hg).grows hsub
  · refine forall_put (fun j g hg => ?_) ?_
    · rw [hfanouts] at hg
      show _ < v.begun
      rw [hbegun]
      exact h.begun j g hg
    · show _ < v.begun
      rw [hbegun]
      exact h.begun i f hf

/-! ### The slots -/

variable {cache : OrdMap String FanoutEntry}

section

variable (h : SlotsKept cache log)
include h

theorem SlotsKept.drop (key : String) :
    SlotsKept (cache.delete key) log := by
  have hold : ∀ key' e, (cache.delete key).get? key' = some e → cache.get? key' = some e := by
    intro key' e he
    rw [get?_delete] at he
    by_cases hsame : key' = key
    · rw [if_pos hsame] at he
      exact absurd he (by simp)
    · rwa [if_neg hsame] at he
  exact ⟨fun key' e he => h.entries key' e (hold key' e he),
    fun key' e hm he => h.marked key' e hm (hold key' e he), h.markedSealed, h.law⟩

/-- A slot is written with bytes that were sealed for it; if it is marked, with the mark. -/
theorem SlotsKept.store {key : String} {e : FanoutEntry}
    (hsealed : .sealedFor key e.sealedBody.number ∈ log)
    (hmarked : .marked key ∈ log → e.deliveredOk = true) : SlotsKept (cache.set key e) log := by
  have hcases : ∀ key' e', (cache.set key e).get? key' = some e' →
      (key' = key ∧ e' = e) ∨ cache.get? key' = some e' := by
    intro key' e' he
    rw [get?_set] at he
    by_cases hsame : key' = key
    · rw [if_pos hsame, some_inj] at he
      exact .inl ⟨hsame, he.symm⟩
    · rw [if_neg hsame] at he
      exact .inr he
  refine ⟨fun key' e' he => ?_, fun key' e' hm he => ?_, h.markedSealed, h.law⟩
  · rcases hcases key' e' he with ⟨rfl, rfl⟩ | hold
    · exact hsealed
    · exact h.entries key' e' hold
  · rcases hcases key' e' he with ⟨rfl, rfl⟩ | hold
    · exact hmarked hm
    · exact h.marked key' e' hm hold

theorem SlotsKept.sealedFor {key : String} {n : Nat}
    (hnew : ∀ n, .sealedFor key n ∉ log) : SlotsKept cache (.sealedFor key n :: log) where
  entries key' e he := mem_cons_of_mem _ (h.entries key' e he)
  marked key' e hm he := by
    rcases mem_cons.1 hm with hm | hm
    · exact absurd hm (by simp)
    · exact h.marked key' e hm he
  markedSealed key' hm := by
    rcases mem_cons.1 hm with hm | hm
    · exact absurd hm (by simp)
    · obtain ⟨n', hn'⟩ := h.markedSealed key' hm
      exact ⟨n', mem_cons_of_mem _ hn'⟩
  law := ⟨hnew, h.law⟩

theorem SlotsKept.dispatched {key : String} {n : Nat}
    (hsealed : .sealedFor key n ∈ log) (hunmarked : .marked key ∉ log) :
    SlotsKept cache (.dispatched key n :: log) where
  entries key' e he := mem_cons_of_mem _ (h.entries key' e he)
  marked key' e hm he := by
    rcases mem_cons.1 hm with hm | hm
    · exact absurd hm (by simp)
    · exact h.marked key' e hm he
  markedSealed key' hm := by
    rcases mem_cons.1 hm with hm | hm
    · exact absurd hm (by simp)
    · obtain ⟨n', hn'⟩ := h.markedSealed key' hm
      exact ⟨n', mem_cons_of_mem _ hn'⟩
  law := ⟨⟨hsealed, hunmarked⟩, h.law⟩

/-- A slot is marked with the bytes that were read from it. -/
theorem SlotsKept.mark {key : String} {e : FanoutEntry}
    (hsealed : .sealedFor key e.sealedBody.number ∈ log) :
    SlotsKept (cache.set key { e with deliveredOk := true }) (.marked key :: log) := by
  have hstored := h.store (e := { e with deliveredOk := true }) hsealed fun _ => rfl
  refine ⟨fun key' e' he => mem_cons_of_mem _ (hstored.entries key' e' he),
    fun key' e' hm he => ?_, fun key' hm => ?_, trivial, h.law⟩
  · by_cases hsame : key' = key
    · rw [hsame, get?_set_self, some_inj] at he
      rw [← he]
    · rcases mem_cons.1 hm with hm | hm
      · exact absurd (marked.inj hm) hsame
      · exact hstored.marked key' e' hm he
  · rcases mem_cons.1 hm with hm | hm
    · rw [marked.inj hm]
      exact ⟨_, mem_cons_of_mem _ hsealed⟩
    · obtain ⟨n', hn'⟩ := h.markedSealed key' hm
      exact ⟨n', mem_cons_of_mem _ hn'⟩

end

/-! ### One step -/

/-- An attempt that begins in turn: whatever the slot answers, the log agrees with it. -/
theorem Replaying.lookup (h : Replaying w) {key : String}
    (hheld : w.SealedUnder key → w.HoldsFresh key) :
    RunKept w.log key (lookupPhase w.clock (w.cache.get? key)) := by
  cases hget : w.cache.get? key with
  | none =>
    have hunsealed : ∀ n, .sealedFor key n ∉ w.log := by
      intro n hn
      obtain ⟨e, he, -⟩ := hheld ⟨_, hn, rfl⟩
      rw [hget] at he
      exact absurd he (by simp)
    refine ⟨fun _ => hunsealed, fun s hs => absurd hs (by simp [lookupPhase, bytes]),
      fun _ hm => ?_⟩
    obtain ⟨n, hn⟩ := h.slots.markedSealed key hm
    exact hunsealed n hn
  | some e =>
    have hsealed := h.slots.entries key e hget
    have hfresh : ¬ e.Expired w.clock := by
      obtain ⟨e', he', hfresh⟩ := hheld ⟨_, hsealed, rfl⟩
      rw [hget, mem_some_iff] at he'
      rw [he']
      exact hfresh
    rw [lookupPhase, if_neg hfresh]
    by_cases hdelivered : e.deliveredOk = true
    · rw [if_pos hdelivered]
      exact runKept_settled w.log key _
    · rw [if_neg hdelivered]
      refine ⟨fun hbare => hbare.elim, fun s hs => ?_, fun _ hm => ?_⟩
      · rw [← some_inj.1 hs]
        exact hsealed
      · exact hdelivered (h.slots.marked key e hm hget)

section Device

variable {i k : Nat} {f : Fanout} {run : DeviceRun} {fate : Response} {queued : Bool}

section

variable (h : Replaying w)
include h

/-- The attempt settles, and nothing is written that the others are bound by. -/
theorem Replaying.settle (hf : w.fanouts.get? i = some f)
    (hsending : f.phase = .sending) (hrun : f.devices[k]? = some run)
    (hfanouts : v.fanouts = w.fanouts) (hbegun : v.begun = w.begun) (hlog : v.log = w.log)
    (hslots : SlotsKept v.cache w.log) {o : DeviceOutcome} (ho : ∀ q, o ≠ .handled q) :
    Replaying (v.putDevice i k f run (.settled o)) := by
  refine h.device hf hsending hrun hfanouts hbegun ?_ ?_ ?_ ?_
    (fun key _ => runKept_settled _ key o) fun key _ hbusy => ?_
  · rw [hlog]
    exact fun _ he => he
  · rw [hlog]
    exact fun _ _ hn => .inl hn
  · rw [hlog]
    exact fun _ hm => hm
  · rw [hlog]
    exact hslots
  · cases o with
    | alreadyDelivered => exact hbusy.elim
    | handled q => exact absurd rfl (ho q)
    | failed => exact hbusy.elim

/-- An attempt without a key leaves no trace. -/
theorem Replaying.unkeyed (hf : w.fanouts.get? i = some f)
    (hsending : f.phase = .sending) (hrun : f.devices[k]? = some run) (hkey : run.key = none)
    (hfanouts : v.fanouts = w.fanouts) (hbegun : v.begun = w.begun)
    (hcache : v.cache = w.cache) (hlog : v.log = w.log) (p : DevicePhase) :
    Replaying (v.putDevice i k f run p) := by
  have hnone (key : String) (hk : run.key = some key) : False := by
    rw [hkey] at hk
    exact absurd hk (by simp)
  refine h.device hf hsending hrun hfanouts hbegun ?_ ?_ ?_ ?_ (fun key hk => (hnone key hk).elim)
    fun key hk => (hnone key hk).elim
  · rw [hlog]
    exact fun _ he => he
  · rw [hlog]
    exact fun _ _ hn => .inl hn
  · rw [hlog]
    exact fun _ hm => hm
  · rw [hcache, hlog]
    exact h.slots

/-- A busy attempt goes on, and the log is as it was. -/
theorem Replaying.goOn (hf : w.fanouts.get? i = some f)
    (hsending : f.phase = .sending) (hrun : f.devices[k]? = some run) (hbusy : run.Busy)
    (hfanouts : v.fanouts = w.fanouts) (hbegun : v.begun = w.begun) (hlog : v.log = w.log)
    (hslots : SlotsKept v.cache w.log)
    (hkept : ∀ key, run.key = some key → RunKept w.log key p) :
    Replaying (v.putDevice i k f run p) := by
  refine h.device hf hsending hrun hfanouts hbegun ?_ ?_ ?_ ?_ (fun key hk => ?_)
    fun _ _ _ => .inl hbusy
  · rw [hlog]
    exact fun _ he => he
  · rw [hlog]
    exact fun _ _ hn => .inl hn
  · rw [hlog]
    exact fun _ hm => hm
  · rw [hlog]
    exact hslots
  · rw [hlog]
    exact hkept key hk

theorem Replaying.advance_lookup (hf : w.fanouts.get? i = some f)
    (hsending : f.phase = .sending) (hrun : f.devices[k]? = some run)
    (hphase : run.phase = .lookup) (hturn : InTurn w (.device i k fate queued)) :
    Replaying ((advanceDevice run fate queued w).2.putDevice i k f run
      (advanceDevice run fate queued w).1) := by
  cases hkey : run.key with
  | none =>
    have hadvance : advanceDevice run fate queued w = (.sealing, w) := by
      simp only [advanceDevice, hphase, hkey]
    rw [hadvance]
    exact h.unkeyed hf hsending hrun hkey rfl rfl rfl rfl _
  | some key =>
    cases fate with
    | ok =>
      have hadvance : advanceDevice run .ok queued w =
          (lookupPhase w.clock (w.cache.get? key), w) := by
        simp only [advanceDevice, hphase, hkey]
      have hlookup : w.lookupKey i k = some key := by
        simp only [lookupKey, hf, hsending, hrun, hphase, hkey, if_true]
      obtain ⟨hfree, hheld⟩ := hturn key hlookup
      rw [hadvance]
      refine h.device hf hsending hrun rfl rfl (fun _ he => he) (fun _ _ hn => .inl hn)
        (fun _ hm => hm) h.slots (fun key' hk => ?_) fun key' hk _ => .inr ?_
      · rw [← some_inj.1 (hkey.symm.trans hk)]
        exact h.lookup hheld
      · rw [← some_inj.1 (hkey.symm.trans hk)]
        exact hfree
    | throws =>
      have hadvance : advanceDevice run .throws queued w = (.settled .failed, w) := by
        simp only [advanceDevice, hphase, hkey]
      rw [hadvance]
      exact h.settle hf hsending hrun rfl rfl rfl h.slots (by simp)
    | throwsLate =>
      have hadvance : advanceDevice run .throwsLate queued w = (.settled .failed, w) := by
        simp only [advanceDevice, hphase, hkey]
      rw [hadvance]
      exact h.settle hf hsending hrun rfl rfl rfl h.slots (by simp)

/-- What is known of a live attempt. -/
theorem Replaying.kept (hf : w.fanouts.get? i = some f)
    (hsending : f.phase = .sending) (hrun : f.devices[k]? = some run) {key : String}
    (hkey : run.key = some key) : RunKept w.log key run.phase := by
  refine h.runs i k run key ⟨f, hf, ?_, hrun⟩ hkey
  unfold Live
  rw [hsending]
  trivial

theorem Replaying.advance_evict (hf : w.fanouts.get? i = some f)
    (hsending : f.phase = .sending) (hrun : f.devices[k]? = some run)
    (hphase : run.phase = .evict) :
    Replaying ((advanceDevice run fate queued w).2.putDevice i k f run
      (advanceDevice run fate queued w).1) := by
  have hbusy : run.Busy := Coming.busy (by rw [hphase]; exact .inl trivial)
  cases hkey : run.key with
  | none =>
    have hadvance : advanceDevice run fate queued w = (.sealing, w) := by
      simp only [advanceDevice, hphase, hkey]
    rw [hadvance]
    exact h.unkeyed hf hsending hrun hkey rfl rfl rfl rfl _
  | some key =>
    cases fate with
    | ok =>
      have hadvance : advanceDevice run .ok queued w = (.sealing, w.dropEntry key) := by
        simp only [advanceDevice, hphase, hkey]
      rw [hadvance]
      refine h.goOn (v := w.dropEntry key) hf hsending hrun hbusy rfl rfl rfl (h.slots.drop key)
        fun key' hk => ?_
      have hkept := h.kept hf hsending hrun hk
      rw [hphase] at hkept
      exact ⟨fun _ => hkept.unsealed trivial, fun s hs => absurd hs (by simp [bytes]),
        fun _ => hkept.unmarked (.inl trivial)⟩
    | throws =>
      have hadvance : advanceDevice run .throws queued w = (.settled .failed, w) := by
        simp only [advanceDevice, hphase, hkey]
      rw [hadvance]
      exact h.settle hf hsending hrun rfl rfl rfl h.slots (by simp)
    | throwsLate =>
      have hadvance : advanceDevice run .throwsLate queued w =
          (.settled .failed, w.dropEntry key) := by
        simp only [advanceDevice, hphase, hkey]
      rw [hadvance]
      exact h.settle (v := w.dropEntry key) hf hsending hrun rfl rfl rfl (h.slots.drop key)
        (by simp)

/-- The one place where a body is sealed: nothing was sealed under the key so far. -/
theorem Replaying.advance_sealing (hf : w.fanouts.get? i = some f)
    (hsending : f.phase = .sending) (hrun : f.devices[k]? = some run)
    (hphase : run.phase = .sealing) :
    Replaying ((advanceDevice run fate queued w).2.putDevice i k f run
      (advanceDevice run fate queued w).1) := by
  have hbusy : run.Busy := Coming.busy (by rw [hphase]; exact .inl trivial)
  cases fate with
  | throws =>
    have hadvance : advanceDevice run .throws queued w = (.settled .failed, w) := by
      simp only [advanceDevice, hphase]
    rw [hadvance]
    exact h.settle hf hsending hrun rfl rfl rfl h.slots (by simp)
  | throwsLate =>
    have hadvance : advanceDevice run .throwsLate queued w = (.settled .failed, w) := by
      simp only [advanceDevice, hphase]
    rw [hadvance]
    exact h.settle hf hsending hrun rfl rfl rfl h.slots (by simp)
  | ok =>
    have hadvance : advanceDevice run .ok queued w =
        (if run.key.isSome = true then .put (w.sealBody run).1 else .dispatch (w.sealBody run).1,
          (w.sealBody run).2) := by
      simp only [advanceDevice, hphase]
    rw [hadvance]
    cases hkey : run.key with
    | none =>
      have hlog : (w.sealBody run).2.log = w.log := by
        simp only [sealBody, hkey, map_none, toList_none, nil_append]
      exact h.unkeyed (v := (w.sealBody run).2) hf hsending hrun hkey rfl rfl rfl hlog _
    | some key =>
      have hlog : (w.sealBody run).2.log = .sealedFor key w.ratchet :: w.log := by
        simp only [sealBody, hkey, map_some, toList_some,
          singleton_append]
      have hkept := h.kept hf hsending hrun hkey
      rw [hphase] at hkept
      refine h.device (v := (w.sealBody run).2) hf hsending hrun rfl rfl ?_ ?_ ?_ ?_
        (fun key' hk => ?_) fun _ _ _ => .inl hbusy
      · rw [hlog]
        exact fun _ he => mem_cons_of_mem _ he
      · rw [hlog]
        intro key' n hn
        rcases mem_cons.1 hn with heq | hn
        · rw [(sealedFor.inj heq).1]
          exact .inr ⟨hkey, hbusy⟩
        · exact .inl hn
      · rw [hlog]
        intro key' hm
        rcases mem_cons.1 hm with heq | hm
        · exact absurd heq (by simp)
        · exact hm
      · rw [hlog]
        exact h.slots.sealedFor (hkept.unsealed trivial)
      · rw [← some_inj.1 (hkey.symm.trans hk), hlog]
        refine ⟨fun hbare => hbare.elim, fun s hs => ?_, fun _ hm => ?_⟩
        · rw [← some_inj.1 hs]
          exact mem_cons_self
        · rcases mem_cons.1 hm with heq | hm
          · exact absurd heq (by simp)
          · exact hkept.unmarked (.inl trivial) hm

theorem Replaying.advance_put (hf : w.fanouts.get? i = some f)
    (hsending : f.phase = .sending) (hrun : f.devices[k]? = some run) {s : Sealed}
    (hphase : run.phase = .put s) :
    Replaying ((advanceDevice run fate queued w).2.putDevice i k f run
      (advanceDevice run fate queued w).1) := by
  have hbusy : run.Busy := Coming.busy (by rw [hphase]; exact .inr rfl)
  cases hkey : run.key with
  | none =>
    have hadvance : advanceDevice run fate queued w = (.dispatch s, w) := by
      simp only [advanceDevice, hphase, hkey]
    rw [hadvance]
    exact h.unkeyed hf hsending hrun hkey rfl rfl rfl rfl _
  | some key =>
    have hkept := h.kept hf hsending hrun hkey
    rw [hphase] at hkept
    have hslots : SlotsKept (w.storeEntry key ⟨s, false, w.clock⟩).cache w.log :=
      h.slots.store (hkept.sealedBytes s rfl) fun hm => absurd hm (hkept.unmarked (.inr rfl))
    cases fate with
    | ok =>
      have hadvance : advanceDevice run .ok queued w =
          (.dispatch s, w.storeEntry key ⟨s, false, w.clock⟩) := by
        simp only [advanceDevice, hphase, hkey]
      rw [hadvance]
      refine h.goOn (v := w.storeEntry key ⟨s, false, w.clock⟩) hf hsending hrun hbusy rfl rfl rfl
        hslots fun key' hk => ?_
      rw [← some_inj.1 (hkey.symm.trans hk)]
      exact ⟨fun hbare => hbare.elim, fun s' hs' => hkept.sealedBytes s' hs',
        fun _ => hkept.unmarked (.inr rfl)⟩
    | throws =>
      have hadvance : advanceDevice run .throws queued w = (.settled .failed, w) := by
        simp only [advanceDevice, hphase, hkey]
      rw [hadvance]
      exact h.settle hf hsending hrun rfl rfl rfl h.slots (by simp)
    | throwsLate =>
      have hadvance : advanceDevice run .throwsLate queued w =
          (.settled .failed, w.storeEntry key ⟨s, false, w.clock⟩) := by
        simp only [advanceDevice, hphase, hkey]
      rw [hadvance]
      exact h.settle (v := w.storeEntry key ⟨s, false, w.clock⟩) hf hsending hrun rfl rfl rfl
        hslots (by simp)

/-- The dispatch is in the log, whatever comes of it. -/
theorem Replaying.advance_dispatch (hf : w.fanouts.get? i = some f)
    (hsending : f.phase = .sending) (hrun : f.devices[k]? = some run) {s : Sealed}
    (hphase : run.phase = .dispatch s) :
    Replaying ((advanceDevice run fate queued w).2.putDevice i k f run
      (advanceDevice run fate queued w).1) := by
  have hbusy : run.Busy := Coming.busy (by rw [hphase]; exact .inr rfl)
  have hdispatched (o : DeviceOutcome) :
      Replaying ((w.noteDispatch run s).putDevice i k f run (.settled o)) := by
    cases hkey : run.key with
    | none =>
      have hlog : (w.noteDispatch run s).log = w.log := by
        simp only [noteDispatch, hkey, map_none, toList_none,
          nil_append]
      exact h.unkeyed (v := w.noteDispatch run s) hf hsending hrun hkey rfl rfl rfl hlog _
    | some key =>
      have hlog : (w.noteDispatch run s).log = .dispatched key s.number :: w.log := by
        simp only [noteDispatch, hkey, map_some, toList_some,
          singleton_append]
      have hkept := h.kept hf hsending hrun hkey
      rw [hphase] at hkept
      refine h.device (v := w.noteDispatch run s) hf hsending hrun rfl rfl ?_ ?_ ?_ ?_
        (fun key _ => runKept_settled _ key o) fun _ _ _ => .inl hbusy
      · rw [hlog]
        exact fun _ he => mem_cons_of_mem _ he
      · rw [hlog]
        intro key' n hn
        rcases mem_cons.1 hn with heq | hn
        · exact absurd heq (by simp)
        · exact .inl hn
      · rw [hlog]
        intro key' hm
        rcases mem_cons.1 hm with heq | hm
        · exact absurd heq (by simp)
        · exact hm
      · rw [hlog]
        exact h.slots.dispatched (hkept.sealedBytes s rfl) (hkept.unmarked (.inr rfl))
  cases fate with
  | ok =>
    have hadvance : advanceDevice run .ok queued w =
        (.settled (.handled queued), w.noteDispatch run s) := by
      simp only [advanceDevice, hphase]
    rw [hadvance]
    exact hdispatched (.handled queued)
  | throws =>
    have hadvance : advanceDevice run .throws queued w =
        (.settled .failed, w.noteDispatch run s) := by
      simp only [advanceDevice, hphase]
    rw [hadvance]
    exact hdispatched .failed
  | throwsLate =>
    have hadvance : advanceDevice run .throwsLate queued w =
        (.settled .failed, w.noteDispatch run s) := by
      simp only [advanceDevice, hphase]
    rw [hadvance]
    exact hdispatched .failed

/-- **One operation of a device** that begins in turn, if it begins. -/
theorem Replaying.deviceStep (hturn : InTurn w (.device i k fate queued)) :
    Replaying (w.deviceStep i k fate queued) := by
  unfold Sender.deviceStep
  cases hf : w.fanouts.get? i with
  | none => exact h
  | some f =>
    dsimp only
    by_cases hsending : f.phase = .sending
    · rw [if_pos hsending]
      cases hrun : f.devices[k]? with
      | none => exact h
      | some run =>
        dsimp only
        cases hphase : run.phase with
        | lookup => exact h.advance_lookup hf hsending hrun hphase hturn
        | evict => exact h.advance_evict hf hsending hrun hphase
        | sealing => exact h.advance_sealing hf hsending hrun hphase
        | put s => exact h.advance_put hf hsending hrun hphase
        | dispatch s => exact h.advance_dispatch hf hsending hrun hphase
        | settled o =>
          have hadvance : advanceDevice run fate queued w = (.settled o, w) := by
            simp only [advanceDevice, hphase]
          rw [hadvance]
          refine h.device hf hsending hrun rfl rfl (fun _ he => he) (fun _ _ hn => .inl hn)
            (fun _ hm => hm) h.slots (fun key _ => runKept_settled _ key o) fun _ _ hb =>
              .inl ?_
          unfold Busy at hb ⊢
          rw [hphase]
          exact hb
    · rw [if_neg hsending]
      exact h

end

end Device

/-! ### The marks -/

/-- The marks that are left are marks of devices that were handled. -/
theorem markingKept_markNext {f : Fanout} {todo : List String}
    (h : ∀ key ∈ todo, ∃ run ∈ f.devices, run.key = some key ∧ ∃ q, run.phase = .settled (.handled q)) :
    MarkingKept log (f.markNext todo) := by
  intro todo' read hphase
  cases todo with
  | nil =>
    have hfinish : f.finish.phase = .marking todo' read := hphase
    unfold finish at hfinish
    split at hfinish
    · exact absurd hfinish (by simp)
    · exact absurd hfinish (by simp)
  | cons key todo =>
    have hsame : (.marking (key :: todo) none : FanoutPhase) = .marking todo' read := hphase
    obtain ⟨htodo, hread⟩ := FanoutPhase.marking.inj hsame
    rw [← htodo, ← hread]
    exact ⟨h, fun e key' he => absurd he (by simp)⟩

section

variable (h : Replaying w)
include h

theorem Replaying.collect (i : Nat) : Replaying (w.collect i) := by
  unfold Sender.collect
  cases hf : w.fanouts.get? i with
  | none => exact h
  | some f =>
    dsimp only
    by_cases hready : f.phase = .sending ∧ ∀ run ∈ f.devices, run.Settled
    · rw [if_pos hready]
      have hlive : f.Live := by
        unfold Live
        rw [hready.1]
        trivial
      exact h.rephase hf hlive (markNext_devices f _) rfl rfl (fun _ he => he) (fun _ _ hn => hn)
        (fun _ hm => .inl hm) h.slots (markingKept_markNext fun _ hkey => mem_handledKeys hkey)
    · rw [if_neg hready]
      exact h

/-- **One operation of a mark.** -/
theorem Replaying.markStep (i : Nat) (fate : Response) :
    Replaying (w.markStep i fate) := by
  unfold Sender.markStep
  cases hf : w.fanouts.get? i with
  | none => exact h
  | some f =>
    dsimp only
    cases hphase : f.phase with
    | sending => exact h
    | returned sentCount queuedCount => exact h
    | incomplete failedCount => exact h
    | threw => exact h
    | marking todo read =>
      have hlive : f.Live := by
        unfold Live
        rw [hphase]
        trivial
      have hkept := h.marking i f hf todo read hphase
      have hthrew : MarkingKept w.log { f with phase := .threw } :=
        fun _ _ hmarking => absurd hmarking (by simp)
      have hstopped : Replaying (w.put i { f with phase := .threw }) :=
        h.rephase hf hlive rfl rfl rfl (fun _ he => he) (fun _ _ hn => hn)
          (fun _ hm => .inl hm) h.slots hthrew
      cases todo with
      | nil => exact h
      | cons key todo =>
        have hrest : ∀ key' ∈ todo, ∃ run ∈ f.devices, run.key = some key' ∧
            ∃ q, run.phase = .settled (.handled q) :=
          fun key' hk => hkept.1 key' (mem_cons_of_mem _ hk)
        cases read with
        | none =>
          cases fate with
          | throws => exact hstopped
          | throwsLate => exact hstopped
          | ok =>
            dsimp only
            cases hget : w.cache.get? key with
            | none =>
              exact h.rephase hf hlive (markNext_devices f _) rfl rfl (fun _ he => he)
                (fun _ _ hn => hn) (fun _ hm => .inl hm) h.slots (markingKept_markNext hrest)
            | some e =>
              refine h.rephase hf hlive rfl rfl rfl (fun _ he => he) (fun _ _ hn => hn)
                (fun _ hm => .inl hm) h.slots fun todo' read' hmarking => ?_
              obtain ⟨htodo, hread⟩ := FanoutPhase.marking.inj hmarking
              rw [← htodo, ← hread]
              refine ⟨hkept.1, fun e' key' he hkey => ?_⟩
              rw [← some_inj.1 he, ← some_inj.1 hkey]
              exact h.slots.entries key e hget
        | some e =>
          have hslots : SlotsKept (w.mark key e).cache (w.mark key e).log :=
            h.slots.mark (hkept.2 e key rfl rfl)
          have hsealed : ∀ key' n, .sealedFor key' n ∈ (w.mark key e).log →
              .sealedFor key' n ∈ w.log := by
            intro key' n hn
            rcases mem_cons.1 hn with heq | hn
            · exact absurd heq (by simp)
            · exact hn
          have hmarked : ∀ key', .marked key' ∈ (w.mark key e).log → .marked key' ∈ w.log ∨
              ∃ run ∈ f.devices, run.key = some key' ∧ ∃ q, run.phase = .settled (.handled q) := by
            intro key' hm
            rcases mem_cons.1 hm with heq | hm
            · rw [marked.inj heq]
              exact .inr (hkept.1 key mem_cons_self)
            · exact .inl hm
          cases fate with
          | throws => exact hstopped
          | ok =>
            exact h.rephase (v := w.mark key e) hf hlive (markNext_devices f _) rfl rfl
              (fun _ he => mem_cons_of_mem _ he) hsealed hmarked hslots
              (markingKept_markNext hrest)
          | throwsLate =>
            exact h.rephase (v := w.mark key e) hf hlive rfl rfl rfl
              (fun _ he => mem_cons_of_mem _ he) hsealed hmarked hslots
              fun _ _ hmarking => absurd hmarking (by simp)

/-! ### Everything else -/

theorem Replaying.begin (call : FanoutCall) : Replaying (w.begin call) := by
  unfold Sender.begin
  cases call.start with
  | singleDevice => exact h
  | throws => exact h
  | fanOut peer devices =>
    dsimp only
    have hidle : ∀ j l r, ({ w.put w.begun ⟨devices.map (start w.ownerAccountId peer
        call.outbound.eventTag call.body), .sending⟩ with
          begun := w.begun + 1 } : Sender).RunAt j l r →
        (r.phase = .lookup ∨ r.phase = .settled .failed) ∨ w.RunAt j l r := by
      intro j l r hr
      rcases runAt_put hr with ⟨-, -, hget⟩ | ⟨-, hold⟩
      · rw [getElem?_map, map_eq_some_iff] at hget
        obtain ⟨device, -, rfl⟩ := hget
        exact .inl (start_phase _ _ _ _ device)
      · exact .inr hold
    have hnotbusy (r : DeviceRun) (hr : r.phase = .lookup ∨ r.phase = .settled .failed) :
        ¬ r.Busy := by
      unfold Busy
      rcases hr with hr | hr
      · rw [hr]; exact id
      · rw [hr]; exact id
    refine ⟨h.slots, fun j l r key hr hkey => ?_, fun j l r j' l' r' key hr hr' hkey hkey' hb hb' => ?_,
      ?_, ?_⟩
    · rcases hidle j l r hr with (hphase | hphase) | hold
      · rw [hphase]
        exact ⟨fun hbare => hbare.elim, fun s hs => absurd hs (by simp [bytes]),
          fun hcoming => absurd hcoming
            (by simp [Coming, Bare, bytes])⟩
      · rw [hphase]
        exact runKept_settled _ _ _
      · exact h.runs j l r key hold hkey
    · rcases hidle j l r hr with hphase | hold
      · exact absurd hb (hnotbusy r hphase)
      · rcases hidle j' l' r' hr' with hphase' | hold'
        · exact absurd hb' (hnotbusy r' hphase')
        · exact h.alone j l r j' l' r' key hold hold' hkey hkey' hb hb'
    · exact forall_put h.marking fun _ _ hmarking => absurd hmarking (by simp)
    · exact forall_put (fun j g hg => Nat.lt_succ_of_lt (h.begun j g hg)) (Nat.lt_succ_self _)

theorem Replaying.prune (key : String) : Replaying (w.prune key) := by
  unfold Sender.prune
  cases w.cache.get? key with
  | none => exact h
  | some e =>
    dsimp only
    by_cases hexpired : e.Expired w.clock
    · rw [if_pos hexpired]
      exact ⟨h.slots.drop key, h.runs, h.alone, h.marking, h.begun⟩
    · rw [if_neg hexpired]
      exact h

/-- **One step** of a sender whose attempts begin in turn. -/
theorem Replaying.step {e : SenderEvent} (hturn : InTurn w e) :
    Replaying (w.step e) := by
  cases e with
  | fanOut call => exact h.begin call
  | device i k fate queued => exact h.deviceStep hturn
  | collect i => exact h.collect i
  | mark i fate => exact h.markStep i fate
  | tick clock => exact ⟨h.slots, h.runs, h.alone, h.marking, h.begun⟩
  | prune key => exact h.prune key
  | crash =>
    have hnone : ∀ j l r, ¬ ({ w with fanouts := empty } : Sender).RunAt j l r := by
      rintro j l r ⟨f, hf, -, -⟩
      exact absurd hf (by simp)
    have hempty : ∀ i f, (empty : OrdMap Nat Fanout).get? i ≠ some f := by simp
    exact ⟨h.slots, fun j l r _ hr => absurd hr (hnone j l r),
      fun j l r _ _ _ _ hr => absurd hr (hnone j l r), fun i f hf => absurd hf (hempty i f),
      fun i f hf => absurd hf (hempty i f)⟩

end

theorem replaying_fresh (ownerAccountId : String) (clock : Int) :
    Replaying (fresh ownerAccountId clock) := by
  have hnone : ∀ j l r, ¬ (fresh ownerAccountId clock).RunAt j l r := by
    rintro j l r ⟨f, hf, -, -⟩
    exact absurd hf (by simp [fresh])
  refine ⟨⟨fun _ _ he => absurd he (by simp [fresh]), fun _ _ _ he => absurd he
    (by simp [fresh]), fun _ hm => absurd hm not_mem_nil, trivial⟩,
    fun j l r _ hr => absurd hr (hnone j l r), fun j l r _ _ _ _ hr => absurd hr (hnone j l r),
    fun _ _ hf => absurd hf (by simp [fresh]), fun _ _ hf => absurd hf (by simp [fresh])⟩

end Invariant

/-- In every run whose attempts begin in turn, one body is sealed under each key, every dispatch
is of its bytes, and none follows the mark: whatever is retried, resent, swept or restarted, and
however the operations of the attempts are interleaved. -/
theorem run_replays (ownerAccountId : String) (clock : Int) (events : List SenderEvent)
    (hturn : Runs.Meets step InTurn (fresh ownerAccountId clock) events) :
    Journal.Throughout SealedOnce ((fresh ownerAccountId clock).after events).log := by
  have hrun : Replaying ((fresh ownerAccountId clock).after events) :=
    Runs.invariant (I := Replaying) step (fun _ _ h hok => h.step hok) events _
      (replaying_fresh ownerAccountId clock) hturn
  exact hrun.slots.law

/-! ### A message that is retried -/

/-- A message to bob's only device. -/
def toBob (body : String) : FanoutCall :=
  ⟨true, true, "bob", .message "m1", body, .set [⟨"b1", "i1"⟩]⟩

/-- The operations of an attempt that seals: lookup, seal, put, dispatch. -/
def sealingAttempt (i : Nat) (dispatched : Response) : List SenderEvent :=
  [.device i 0 .ok false, .device i 0 .ok false, .device i 0 .ok false,
    .device i 0 dispatched false, .collect i]

/-- The dispatch fails, and the retry, which begins in turn, replays. -/
theorem run_replays_retried : Journal.Throughout SealedOnce
    ((fresh "alice" 0).after ([.fanOut (toBob "hello")] ++ sealingAttempt 0 .throws ++
      [.tick 1000, .fanOut (toBob "hello"), .device 1 0 .ok false, .device 1 0 .ok false,
        .collect 1, .mark 1 .ok, .mark 1 .ok])).log :=
  run_replays "alice" 0 _ (by decide)

/-- No acknowledgement came, and a retry comes when the slot has expired: the message is sealed
again, for a device that was marked. -/
theorem resealed_afterTtl : ¬ ∀ ownerAccountId clock events,
    Journal.Throughout SealedOnce ((fresh ownerAccountId clock).after events).log := by
  intro h
  have hrun := h "alice" 0 ([.fanOut (toBob "hello")] ++ sealingAttempt 0 .ok ++
    [.mark 0 .ok, .mark 0 .ok, .tick (fanoutTtlMs + 1), .fanOut (toBob "hello"),
      .device 1 0 .ok false, .device 1 0 .ok false, .device 1 0 .ok false])
  exact hrun.1 0 (by decide)

end RezChat.Delivery
