/-
A fan-out is honest about what it did (`services/ServerMessagesService.js`,
`#fanOutToPeerDevices`).

It returns only if every device of the set was reached, in this attempt or, by the mark in its
slot, in an earlier one. If a device failed it says so, and by then the devices that were
reached are marked, so that the next attempt leaves them alone. What may fail, at any device, is
each of its operations: the lookup, the eviction, the sealing, the write, the dispatch.

The one way to a single-device send while the gate is open is the answer that the peer has
published no device set (`singleDevice_noSet`).
-/
import RezChat.Delivery.Fanout

set_option autoImplicit false

namespace RezChat.Delivery

open Inbox (trim)
open Devices (PeerDevice)
open List Option OrdMap DeviceRun Sender Fanout DevicePhase

/-! ## The law -/

/-- The dispatch returned. -/
def DevicePhase.Handled (p : DevicePhase) : Prop := ∃ queued, p = .settled (.handled queued)

/-- The device was reached: its dispatch returned, or an earlier attempt had marked its slot. -/
def DevicePhase.Served (p : DevicePhase) : Prop := p = .settled .alreadyDelivered ∨ p.Handled

def Marked (cache : OrdMap String FanoutEntry) (key : String) : Prop :=
  ∃ e, cache.get? key = some e ∧ e.deliveredOk = true

/-- The slot was marked, and does not expire. -/
def Spared (cache : OrdMap String FanoutEntry) (times : List Int) (key : String) : Prop :=
  ∃ e, cache.get? key = some e ∧ e.deliveredOk = true ∧ ∀ nowMs ∈ times, ¬ e.Expired nowMs

/-- What a device is served with: its slot, its id, its inbox, and the body. -/
abbrev Target := Option String × String × String × String

def DeviceRun.target (run : DeviceRun) : Target :=
  (run.key, run.peerDeviceId, run.deliverInboxId, run.body)

/-- The targets of a call. -/
def targetsOf (ownerAccountId peer : String) (call : FanoutCall) (devices : List PeerDevice) :
    List Target :=
  devices.map fun device =>
    (start ownerAccountId peer call.outbound.eventTag call.body device).target

/-- The set names the device at `k` once. -/
def NamedOnce (devices : List PeerDevice) (k : Nat) : Prop :=
  ∀ j, (devices[j]?).map (fun device => trim device.deviceId) =
    (devices[k]?).map (fun device => trim device.deviceId) → j = k

/-- It returned, or it threw that it is incomplete. -/
def Fanout.Ended (f : Fanout) : Prop :=
  match f.phase with
  | .returned _ _ | .incomplete _ => True
  | .sending | .marking _ _ | .threw => False

/-- An operation of the fan-out `i`, or a reading of the clock. -/
def SenderEvent.Of (i : Nat) : SenderEvent → Prop
  | .device j _ _ _ | .collect j | .mark j _ => j = i
  | .tick _ => True
  | .fanOut _ | .prune _ | .crash => False

instance (i : Nat) (e : SenderEvent) : Decidable (e.Of i) := by
  unfold SenderEvent.Of
  split <;> infer_instance

/-- The readings of the clock. -/
def readings (clock : Int) (events : List SenderEvent) : List Int :=
  clock :: events.filterMap fun
    | .tick nowMs => some nowMs
    | _ => none

/-- A fan-out of a call, after some of its operations: what it says, and what it has done to the
slots `prior` that it began with. -/
structure Honest (prior cache : OrdMap String FanoutEntry) (times : List Int)
    (devices : List PeerDevice) (done : List LogEntry) (f : Fanout) : Prop where
  success : ∀ sentCount queuedCount, f.phase = .returned sentCount queuedCount →
    (∀ run ∈ f.devices, run.phase.Served) ∧ sentCount + queuedCount = devices.length
  incomplete : ∀ failedCount, f.phase = .incomplete failedCount →
    ∃ run ∈ f.devices, run.phase = .settled .failed
  already : ∀ run ∈ f.devices, run.phase = .settled .alreadyDelivered →
    ∃ key, run.key = some key ∧ Marked prior key
  handled : ∀ run ∈ f.devices, ∀ key, run.key = some key → run.phase.Handled →
    ∃ n, .dispatched key n ∈ done
  marked : f.Ended → ∀ k run key, f.devices[k]? = some run → run.key = some key →
    NamedOnce devices k → run.phase.Served → Marked cache key
  spared : ∀ key, Spared prior times key → ∀ n, .dispatched key n ∉ done

/-! ## The invariant -/

/-- The phases of a device that has done nothing. -/
def DevicePhase.Idle (p : DevicePhase) : Prop :=
  p = .lookup ∨ p = .settled .alreadyDelivered ∨ p = .settled .failed

/-- The phases of a device whose bytes are stored. -/
def DevicePhase.Holding (p : DevicePhase) : Prop := (∃ s, p = .dispatch s) ∨ p.Handled

/-- No other device has the slot of the device `k`. -/
def Once (targets : List Target) (k : Nat) : Prop :=
  ∀ j, (targets[j]?).map Prod.fst = (targets[k]?).map Prod.fst → j = k

/-- One device with a slot. -/
structure Tracked (prior cache : OrdMap String FanoutEntry) (times : List Int)
    (done : List LogEntry) (once : Prop) (key : String) (p : DevicePhase) : Prop where
  already : p = .settled .alreadyDelivered → Marked prior key
  handled : p.Handled → ∃ n, .dispatched key n ∈ done
  spared : Spared prior times key → p.Idle
  present : once → p.Holding → ∃ e, cache.get? key = some e
  marked : once → p = .settled .alreadyDelivered → Marked cache key

/-- The mark of the device is still to be made, or the fan-out does not say how it ended. -/
def Fanout.MarkLeft (f : Fanout) (key : String) : Prop :=
  match f.phase with
  | .sending | .threw => True
  | .marking todo _ => key ∈ todo
  | .returned _ _ | .incomplete _ => False

/-- What a fan-out says is what its devices say. -/
def Fanout.Truthful (f : Fanout) : Prop :=
  match f.phase with
  | .sending | .threw => True
  | .marking todo _ => (∀ run ∈ f.devices, run.Settled) ∧ ∀ key ∈ todo, key ∈ f.handledKeys
  | .returned sentCount queuedCount =>
    (∀ run ∈ f.devices, run.phase.Served) ∧ sentCount + queuedCount = f.devices.length
  | .incomplete _ => ∃ run ∈ f.devices, run.phase = .settled .failed

structure Serving (prior : OrdMap String FanoutEntry) (times : List Int)
    (targets : List Target) (cache : OrdMap String FanoutEntry) (done : List LogEntry)
    (f : Fanout) : Prop where
  served : f.devices.map target = targets
  unmarked : f.phase = .sending → ∀ key e, cache.get? key = some e → e.deliveredOk = true →
    prior.get? key = some e
  spared : ∀ key, Spared prior times key →
    cache.get? key = prior.get? key ∧ ∀ n, .dispatched key n ∉ done
  tracked : ∀ k run key, f.devices[k]? = some run → run.key = some key →
    Tracked prior cache times done (Once targets k) key run.phase
  keyless : ∀ run ∈ f.devices, run.key = none → run.phase ≠ .settled .alreadyDelivered
  made : ∀ k run key, f.devices[k]? = some run → run.key = some key → Once targets k →
    run.phase.Handled → f.MarkLeft key ∨ Marked cache key
  truthful : f.Truthful

section Invariant

variable {prior cache cache' : OrdMap String FanoutEntry} {times : List Int}
  {targets : List Target} {done added : List LogEntry}
  {f f' : Fanout} {k : Nat} {run : DeviceRun} {p : DevicePhase} {key : String} {once : Prop}

/-- A device that failed is bound by nothing. -/
theorem tracked_failed : Tracked prior cache times done once key (.settled .failed) where
  already h := absurd h (by simp)
  handled := by
    rintro ⟨queued, h⟩
    exact absurd h (by simp)
  spared _ := .inr (.inr rfl)
  present := by
    rintro - (⟨s, h⟩ | ⟨queued, h⟩)
    · exact absurd h (by simp)
    · exact absurd h (by simp)
  marked _ h := absurd h (by simp)

/-- A device that is on its way to a dispatch, and whose slot was not marked. -/
theorem tracked_underway (hspared : ¬ Spared prior times key) (hsettled : ∀ o, p ≠ .settled o)
    (hstored : ∀ s, p = .dispatch s → ∃ e, cache.get? key = some e) :
    Tracked prior cache times done once key p where
  already h := absurd h (hsettled _)
  handled := by
    rintro ⟨queued, h⟩
    exact absurd h (hsettled _)
  spared h := absurd h hspared
  present := by
    rintro - (⟨s, h⟩ | ⟨queued, h⟩)
    · exact hstored s h
    · exact absurd h (hsettled _)
  marked _ h := absurd h (hsettled _)

/-- The same key belongs to the device alone. -/
theorem Once.eq_of_key (h : Once targets k) (htargets : f.devices.map target = targets)
    {j : Nat} {run' : DeviceRun} (hrun : f.devices[k]? = some run)
    (hrun' : f.devices[j]? = some run') (hkey : run.key = run'.key) : j = k := by
  refine h j ?_
  rw [← htargets, getElem?_map, getElem?_map, hrun, hrun']
  simp only [map_some, target]
  rw [hkey]

section

variable (h : Serving prior times targets cache done f)
include h

/-- An operation of one device. It writes no slot but its own, and leaves no mark. -/
theorem Serving.device
    (hsending : f.phase = .sending) (hrun : f.devices[k]? = some run)
    (hother : ∀ key, run.key ≠ some key → cache'.get? key = cache.get? key)
    (hadded : ∀ key n, .dispatched key n ∈ added → run.key = some key)
    (hunmarked : ∀ key e, cache'.get? key = some e → e.deliveredOk = true →
      cache.get? key = some e)
    (hspared : ∀ key, run.key = some key → Spared prior times key →
      cache'.get? key = cache.get? key ∧ ∀ n, .dispatched key n ∉ added)
    (hkeyless : run.key = none → p ≠ .settled .alreadyDelivered)
    (htracked : ∀ key, run.key = some key →
      Tracked prior cache' times (added ++ done) (Once targets k) key p) :
    Serving prior times targets cache' (added ++ done)
      { f with devices := f.devices.set k { run with phase := p } } := by
  have hlt : k < f.devices.length := (List.getElem?_eq_some_iff.1 hrun).1
  -- a device is the one that went on, or it is as it was
  have hcases : ∀ j run', (f.devices.set k { run with phase := p })[j]? = some run' →
      (j = k ∧ run' = { run with phase := p }) ∨ (j ≠ k ∧ f.devices[j]? = some run') := by
    intro j run' hj
    by_cases hsame : j = k
    · rw [hsame, getElem?_set_self hlt, some_inj] at hj
      exact .inl ⟨hsame, hj.symm⟩
    · rw [getElem?_set_ne (fun hkj => hsame hkj.symm)] at hj
      exact .inr ⟨hsame, hj⟩
  refine ⟨?_, fun _ key e he hmarked => ?_, fun key hs => ?_, fun j run' key hj hkey => ?_,
    fun run' hmem hkey => ?_, fun _ _ _ _ _ _ _ => .inl ?_, ?_⟩
  · rw [← h.served, map_set]
    refine ext_getElem? fun j => ?_
    by_cases hsame : k = j
    · rw [← hsame, getElem?_set_self (by rw [length_map]; exact hlt),
        getElem?_map, hrun]
      rfl
    · rw [getElem?_set_ne hsame]
  · exact h.unmarked hsending key e (hunmarked key e he hmarked) hmarked
  · obtain ⟨hcache, hnone⟩ := h.spared key hs
    by_cases hkey : run.key = some key
    · obtain ⟨hsame, hfresh⟩ := hspared key hkey hs
      exact ⟨hsame.trans hcache, fun n hn =>
        (mem_append.1 hn).elim (hfresh n) (hnone n)⟩
    · refine ⟨(hother key hkey).trans hcache, fun n hn => ?_⟩
      exact (mem_append.1 hn).elim (fun hn => hkey (hadded key n hn)) (hnone n)
  · rcases hcases j run' hj with ⟨rfl, rfl⟩ | ⟨hne, hold⟩
    · exact htracked key hkey
    · have hkept := h.tracked j run' key hold hkey
      -- the only device of its slot is not the one that went on
      have hframe : Once targets j → cache'.get? key = cache.get? key := by
        intro hjonce
        refine hother key fun hsame => hne ?_
        exact (hjonce.eq_of_key h.served hold hrun (hkey.trans hsame.symm)).symm
      refine ⟨hkept.already, fun hp => ?_, hkept.spared, fun hjonce hp => ?_,
        fun hjonce hp => ?_⟩
      · obtain ⟨n, hn⟩ := hkept.handled hp
        exact ⟨n, mem_append_right _ hn⟩
      · rw [hframe hjonce]
        exact hkept.present hjonce hp
      · obtain ⟨e, he, hmarked⟩ := hkept.marked hjonce hp
        exact ⟨e, (hframe hjonce).trans he, hmarked⟩
  · obtain ⟨j, hj⟩ := mem_iff_getElem?.1 hmem
    rcases hcases j run' hj with ⟨-, rfl⟩ | ⟨-, hold⟩
    · exact hkeyless hkey
    · exact h.keyless run' (mem_of_getElem? hold) hkey
  · show MarkLeft _ _
    unfold MarkLeft
    rw [hsending]
    trivial
  · show Truthful _
    unfold Truthful
    rw [hsending]
    trivial

/-- A fan-out goes on to its marks, or makes one, or ends. What it writes are marks of devices
that it handled. -/
theorem Serving.rephase
    (hdevices : f'.devices = f.devices) (hphase : f'.phase ≠ .sending)
    (hcache : ∀ key, cache'.get? key = cache.get? key ∨
      (key ∈ f.handledKeys ∧ Marked cache' key))
    (hmade : ∀ k run key, f.devices[k]? = some run → run.key = some key → Once targets k →
      run.phase.Handled → f'.MarkLeft key ∨ Marked cache' key)
    (htruthful : f'.Truthful) : Serving prior times targets cache' done f' := by
  have hmarked : ∀ key, Marked cache key → Marked cache' key := by
    rintro key ⟨e, he, hdelivered⟩
    rcases hcache key with hsame | ⟨-, hnew⟩
    · exact ⟨e, hsame.trans he, hdelivered⟩
    · exact hnew
  refine ⟨by rw [hdevices]; exact h.served, fun hsending => absurd hsending hphase,
    fun key hs => ?_, fun k run key hrun hkey => ?_, by rw [hdevices]; exact h.keyless,
    by rw [hdevices]; exact hmade, htruthful⟩
  · obtain ⟨hprior, hnone⟩ := h.spared key hs
    rcases hcache key with hsame | ⟨hhandled, -⟩
    · exact ⟨hsame.trans hprior, hnone⟩
    · -- a device that was handled was not spared
      obtain ⟨run, hmem, hkey, queued, hp⟩ := mem_handledKeys hhandled
      obtain ⟨k, hk⟩ := mem_iff_getElem?.1 hmem
      have hidle := (h.tracked k run key hk hkey).spared hs
      rw [hp] at hidle
      exact absurd hidle (by simp [Idle])
  · rw [hdevices] at hrun
    have hkept := h.tracked k run key hrun hkey
    refine ⟨hkept.already, hkept.handled, hkept.spared, fun honce hp => ?_,
      fun honce hp => hmarked key (hkept.marked honce hp)⟩
    obtain ⟨e, he⟩ := hkept.present honce hp
    rcases hcache key with hsame | ⟨-, e', he', -⟩
    · exact ⟨e, hsame.trans he⟩
    · exact ⟨e', he'⟩

/-- A device that has done nothing goes on to what its slot says. -/
theorem Serving.lookup
    (hsending : f.phase = .sending) {nowMs : Int} (hnow : nowMs ∈ times) (key : String) :
    Tracked prior cache times done once key (lookupPhase nowMs (cache.get? key)) := by
  cases hget : cache.get? key with
  | none =>
    have hspared : ¬ Spared prior times key := by
      rintro ⟨e, he, hdelivered, hfresh⟩
      have hsame := (h.spared key ⟨e, he, hdelivered, hfresh⟩).1
      rw [hget, he] at hsame
      exact absurd hsame (by simp)
    exact tracked_underway hspared (by simp [lookupPhase]) (by simp [lookupPhase])
  | some e =>
    have hspared : e.deliveredOk ≠ true ∨ e.Expired nowMs → ¬ Spared prior times key := by
      rintro hor ⟨e', he', hdelivered, hfresh⟩
      have hsame := (h.spared key ⟨e', he', hdelivered, hfresh⟩).1
      rw [hget, he', some_inj] at hsame
      rw [hsame] at hor
      exact hor.elim (fun hne => hne hdelivered) (hfresh nowMs hnow)
    rw [lookupPhase]
    by_cases hexpired : e.Expired nowMs
    · rw [if_pos hexpired]
      exact tracked_underway (hspared (.inr hexpired)) (by simp) (by simp)
    · rw [if_neg hexpired]
      by_cases hdelivered : e.deliveredOk = true
      · rw [if_pos hdelivered]
        have hprior := h.unmarked hsending key e hget hdelivered
        refine ⟨fun _ => ⟨e, hprior, hdelivered⟩, ?_, fun _ => .inr (.inl rfl), ?_,
          fun _ _ => ⟨e, hget, hdelivered⟩⟩
        · rintro ⟨queued, hp⟩
          exact absurd hp (by simp)
        · exact fun _ _ => ⟨e, hget⟩
      · rw [if_neg hdelivered]
        exact tracked_underway (hspared (.inl hdelivered)) (by simp) fun _ _ => ⟨e, hget⟩

/-- An operation that writes no slot. -/
theorem Serving.keepSlot
    (hsending : f.phase = .sending) (hrun : f.devices[k]? = some run) (hkey : run.key = some key)
    (hadded : ∀ key' n, .dispatched key' n ∈ added → key' = key ∧ ¬ Spared prior times key)
    (htracked : Tracked prior cache times (added ++ done) (Once targets k) key p) :
    Serving prior times targets cache (added ++ done)
      { f with devices := f.devices.set k { run with phase := p } } := by
  refine h.device hsending hrun (fun _ _ => rfl) (fun key' n hn => ?_) (fun _ _ he _ => he)
    (fun key' hk hs => ⟨rfl, fun n hn => ?_⟩) (fun hnone => ?_) fun key' hk => ?_
  · rw [(hadded key' n hn).1]
    exact hkey
  · rw [(hadded key' n hn).1] at hs
    exact (hadded key' n hn).2 hs
  · rw [hkey] at hnone
    exact absurd hnone (by simp)
  · rw [hkey, some_inj] at hk
    rw [← hk]
    exact htracked

/-- An operation that writes the slot of a device, and not with a mark. -/
theorem Serving.writeSlot
    (hsending : f.phase = .sending) (hrun : f.devices[k]? = some run) (hkey : run.key = some key)
    (hspared : ¬ Spared prior times key)
    (hother : ∀ key', key' ≠ key → cache'.get? key' = cache.get? key')
    (hnew : ∀ e, cache'.get? key = some e → e.deliveredOk = false)
    (htracked : Tracked prior cache' times done (Once targets k) key p) :
    Serving prior times targets cache' ([] ++ done)
      { f with devices := f.devices.set k { run with phase := p } } := by
  refine h.device hsending hrun (fun key' hne => hother key' fun hsame => ?_)
    (fun _ _ hn => absurd hn not_mem_nil) (fun key' e he hdelivered => ?_)
    (fun key' hk hs => ?_) (fun hnone => ?_) fun key' hk => ?_
  · exact hne (hkey.trans (congrArg some hsame.symm))
  · by_cases hsame : key' = key
    · rw [hsame] at he
      rw [hnew e he] at hdelivered
      exact absurd hdelivered (by simp)
    · rwa [hother key' hsame] at he
  · rw [hkey, some_inj] at hk
    rw [← hk] at hs
    exact absurd hs hspared
  · rw [hkey] at hnone
    exact absurd hnone (by simp)
  · rw [hkey, some_inj] at hk
    rw [← hk]
    exact htracked

end

/-- **One operation of a device.** -/
theorem Serving.advance {w : Sender} (h : Serving prior times targets w.cache done f)
    (hsending : f.phase = .sending) (hnow : w.clock ∈ times) (hrun : f.devices[k]? = some run)
    (fate : Response) (queued : Bool) :
    ∃ added, (advanceDevice run fate queued w).2.log = added ++ w.log ∧
      Serving prior times targets (advanceDevice run fate queued w).2.cache (added ++ done)
        { f with
          devices := f.devices.set k { run with phase := (advanceDevice run fate queued w).1 } } := by
  have hmem : run ∈ f.devices := mem_of_getElem? hrun
  rcases eq_none_or_eq_some run.key with hkey | ⟨key, hkey⟩
  · obtain ⟨hcache, hlog⟩ := advanceDevice_keyless_cache run fate queued w hkey
    have hphase := advanceDevice_keyless_phase run fate queued w hkey (h.keyless run hmem hkey)
    have hno : ∀ key, run.key ≠ some key := by
      intro key hk
      rw [hkey] at hk
      exact absurd hk (by simp)
    refine ⟨[], hlog, h.device hsending hrun (fun key _ => by rw [hcache])
      (fun _ _ hn => absurd hn not_mem_nil) (fun key e he _ => ?_)
      (fun key hk => absurd hk (hno key)) (fun _ => hphase) fun key hk => absurd hk (hno key)⟩
    rwa [hcache] at he
  · have hkept := h.tracked k run key hrun hkey
    -- a device that is not idle was not spared
    have hspared : ¬ run.phase.Idle → ¬ Spared prior times key := mt hkept.spared
    have hnone : ∀ key' n, LogEntry.dispatched key' n ∈ ([] : List LogEntry) →
        key' = key ∧ ¬ Spared prior times key := fun _ _ hn => absurd hn not_mem_nil
    rcases advanceDevice_cases run fate queued w hkey with ⟨hw, hp⟩ | ⟨-, hadv⟩ |
      ⟨hphase, hw, hp⟩ | ⟨hphase, hadv⟩ | ⟨s, hphase, hw, hp⟩ | ⟨s, hphase, hw, hp⟩
    · -- nothing is done
      rw [hw]
      refine ⟨[], rfl, h.keepSlot hsending hrun hkey hnone ?_⟩
      rcases hp with hp | hp
      · rw [hp]
        exact hkept
      · rw [hp]
        exact tracked_failed
    · -- the slot is looked up
      rw [hadv]
      exact ⟨[], rfl, h.keepSlot hsending hrun hkey hnone (h.lookup hsending hnow key)⟩
    · -- an expired entry is deleted
      have hgone : (w.cache.delete key).get? key = none := get?_delete_self _ _
      have hnot := hspared (by rw [hphase]; simp [Idle])
      rw [hw]
      refine ⟨[], rfl, h.writeSlot hsending hrun hkey hnot
        (fun key' hne => get?_delete_of_ne _ hne) (fun e he => ?_) ?_⟩
      · exact absurd (hgone.symm.trans he) (by simp)
      · rcases hp with hp | hp
        · rw [hp]
          exact tracked_underway hnot (by simp) (by simp)
        · rw [hp]
          exact tracked_failed
    · -- the body is sealed
      have hnot := hspared (by rw [hphase]; simp [Idle])
      rw [hadv]
      refine ⟨[.sealedFor key w.ratchet], ?_, h.keepSlot hsending hrun hkey
        (fun key' n hn => absurd (mem_singleton.1 hn) (by simp)) ?_⟩
      · simp only [sealBody, hkey, map_some, toList_some]
      · exact tracked_underway hnot (by simp) (by simp)
    · -- the bytes are written
      have hstored : (w.cache.set key ⟨s, false, w.clock⟩).get? key = some ⟨s, false, w.clock⟩ :=
        get?_set_self _ _ _
      have hnot := hspared (by rw [hphase]; simp [Idle])
      rw [hw]
      refine ⟨[], rfl, h.writeSlot hsending hrun hkey hnot
        (fun key' hne => get?_set_of_ne _ _ hne) (fun e he => ?_) ?_⟩
      · rw [← some_inj.1 (hstored.symm.trans he)]
      · rcases hp with hp | hp
        · rw [hp]
          exact tracked_underway hnot (by simp) fun _ _ => ⟨_, hstored⟩
        · rw [hp]
          exact tracked_failed
    · -- the bytes are dispatched
      have hnot := hspared (by rw [hphase]; simp [Idle])
      rw [hw]
      refine ⟨[.dispatched key s.number], ?_, h.keepSlot hsending hrun hkey
        (fun key' n hn => ⟨(LogEntry.dispatched.inj (mem_singleton.1 hn)).1, hnot⟩) ?_⟩
      · simp only [noteDispatch, hkey, map_some, toList_some]
      · rcases hp with hp | hp
        · rw [hp]
          refine ⟨fun hp => absurd hp (by simp), fun _ => ⟨s.number, mem_cons_self⟩,
            fun hs => absurd hs hnot, fun honce _ => ?_, fun _ hp => absurd hp (by simp)⟩
          exact hkept.present honce (.inl ⟨s, hphase⟩)
        · rw [hp]
          exact tracked_failed

/-! ### The marks -/

/-- The devices of a fan-out that have settled, none of them failed. -/
theorem count_served (devices : List DeviceRun)
    (hserved : ∀ run ∈ devices, run.phase.Served) (p : FanoutPhase) :
    (mk devices p).count (fun o => o = .alreadyDelivered || o = .handled false) +
      (mk devices p).count (· = .handled true) = devices.length := by
  unfold Fanout.count
  induction devices with
  | nil => rfl
  | cons run devices ih =>
    have hrest := ih fun run' hrun' => hserved run' (mem_cons_of_mem _ hrun')
    simp only [countP_cons, length_cons] at hrest ⊢
    rcases hserved run mem_cons_self with hp | ⟨queued, hp⟩
    · rw [hp]
      simp only [decide_true, Bool.true_or, if_true]
      rw [if_neg (by simp)]
      omega
    · rw [hp]
      cases queued with
      | true =>
        rw [if_neg (by simp), if_pos (by simp)]
        omega
      | false =>
        rw [if_pos (by simp), if_neg (by simp)]
        omega

theorem truthful_finish (hsettled : ∀ run ∈ f.devices, run.Settled) : f.finish.Truthful := by
  unfold finish
  by_cases hfailed : f.count (· = .failed) > 0
  · rw [if_pos hfailed]
    obtain ⟨run, hmem, hrun⟩ := countP_pos_iff.1 hfailed
    obtain ⟨o, ho⟩ := hsettled run hmem
    rw [ho] at hrun
    refine ⟨run, hmem, ?_⟩
    rw [ho, of_decide_eq_true hrun]
  · rw [if_neg hfailed]
    have hserved : ∀ run ∈ f.devices, run.phase.Served := by
      intro run hmem
      obtain ⟨o, ho⟩ := hsettled run hmem
      cases o with
      | alreadyDelivered => exact .inl ho
      | handled queued => exact .inr ⟨queued, ho⟩
      | failed =>
        refine absurd (countP_pos_iff.2 ⟨run, hmem, ?_⟩) hfailed
        rw [ho]
        exact decide_eq_true rfl
    exact ⟨hserved, count_served f.devices hserved f.phase⟩

theorem truthful_markNext {todo : List String} (hsettled : ∀ run ∈ f.devices, run.Settled)
    (htodo : ∀ key ∈ todo, key ∈ f.handledKeys) : (f.markNext todo).Truthful := by
  cases todo with
  | nil => exact truthful_finish hsettled
  | cons key todo => exact ⟨hsettled, htodo⟩

theorem finish_phase_ne (f : Fanout) : f.finish.phase ≠ .sending := by
  unfold finish
  split
  · simp
  · simp

theorem markNext_phase_ne (f : Fanout) (todo : List String) :
    (f.markNext todo).phase ≠ .sending := by
  cases todo with
  | nil => exact finish_phase_ne f
  | cons key todo => simp [markNext]

theorem markLeft_markNext {todo : List String} (h : key ∈ todo) : (f.markNext todo).MarkLeft key := by
  cases todo with
  | nil => exact absurd h not_mem_nil
  | cons key' todo => exact h

/-- A device that was handled has its mark to come. -/
theorem mem_handledKeys_of_handled (hrun : run ∈ f.devices) (hkey : run.key = some key)
    (hhandled : run.phase.Handled) : key ∈ f.handledKeys := by
  obtain ⟨queued, hp⟩ := hhandled
  refine mem_filterMap.2 ⟨run, hrun, ?_⟩
  rw [hp]
  exact hkey

section

variable (h : Serving prior times targets cache done f)
include h

/-- **All devices have settled.** -/
theorem Serving.collect
    (hsettled : ∀ run ∈ f.devices, run.Settled) :
    Serving prior times targets cache done (f.markNext f.handledKeys) :=
  h.rephase (markNext_devices f _) (markNext_phase_ne f _) (fun _ => .inl rfl)
    (fun _ _ _ hrun hkey _ hhandled => .inl (markLeft_markNext
      (mem_handledKeys_of_handled (mem_of_getElem? hrun) hkey hhandled)))
    (truthful_markNext hsettled fun _ hkey => hkey)

/-- The fan-out stops at a mark that could not be made. -/
theorem Serving.threw
    (hcache : ∀ key, cache'.get? key = cache.get? key ∨
      (key ∈ f.handledKeys ∧ Marked cache' key)) :
    Serving prior times targets cache' done { f with phase := .threw } :=
  h.rephase rfl (by simp) hcache (fun _ _ _ _ _ _ _ => .inl trivial) trivial

/-- A mark is noted in the log. -/
theorem Serving.noteMark (key : String) :
    Serving prior times targets cache (.marked key :: done) f := by
  refine ⟨h.served, h.unmarked, fun key' hs => ?_, fun k run key' hrun hkey => ?_, h.keyless,
    h.made, h.truthful⟩
  · obtain ⟨hcache, hnone⟩ := h.spared key' hs
    refine ⟨hcache, fun n hn => ?_⟩
    rcases mem_cons.1 hn with hn | hn
    · exact absurd hn (by simp)
    · exact hnone n hn
  · have hkept := h.tracked k run key' hrun hkey
    refine ⟨hkept.already, fun hp => ?_, hkept.spared, hkept.present, hkept.marked⟩
    obtain ⟨n, hn⟩ := hkept.handled hp
    exact ⟨n, mem_cons_of_mem _ hn⟩

end

/-- A slot is marked. -/
theorem marked_cases (cache : OrdMap String FanoutEntry) (e : FanoutEntry)
    (hhandled : key ∈ f.handledKeys)
    (key' : String) : (cache.set key { e with deliveredOk := true }).get? key' = cache.get? key' ∨
      (key' ∈ f.handledKeys ∧ Marked (cache.set key { e with deliveredOk := true }) key') := by
  by_cases hsame : key' = key
  · rw [hsame]
    exact .inr ⟨hhandled, _, get?_set_self _ _ _, rfl⟩
  · exact .inl (get?_set_of_ne _ _ hsame)

/-- **One operation of a mark**, in a fan-out that has read `read` for the mark of `key`. -/
theorem Serving.mark (h : Serving prior times targets cache done f) {todo : List String}
    {read : Option FanoutEntry} (hphase : f.phase = .marking (key :: todo) read) :
    key ∈ f.handledKeys ∧
      (∀ e, Serving prior times targets cache done
        { f with phase := .marking (key :: todo) (some e) }) ∧
      (cache.get? key = none → Serving prior times targets cache done (f.markNext todo)) ∧
      ∀ e : FanoutEntry, Serving prior times targets
        (cache.set key { e with deliveredOk := true }) done (f.markNext todo) := by
  have htruthful := h.truthful
  unfold Truthful at htruthful
  rw [hphase] at htruthful
  obtain ⟨hsettled, htodo⟩ := htruthful
  have hhandled : key ∈ f.handledKeys := htodo key mem_cons_self
  have hrest : ∀ key' ∈ todo, key' ∈ f.handledKeys :=
    fun key' hkey' => htodo key' (mem_cons_of_mem _ hkey')
  -- the marks that are left, or made
  have hmade : ∀ j run key', f.devices[j]? = some run → run.key = some key' → Once targets j →
      run.phase.Handled → key' = key ∨ key' ∈ todo ∨ Marked cache key' := by
    intro j run key' hrun hkey honce hp
    rcases h.made j run key' hrun hkey honce hp with hleft | hmarked
    · unfold MarkLeft at hleft
      rw [hphase] at hleft
      exact (mem_cons.1 hleft).imp_right .inl
    · exact .inr (.inr hmarked)
  refine ⟨hhandled, fun e => ?_, fun hnone => ?_, fun e => ?_⟩
  · refine h.rephase rfl (by simp) (fun _ => .inl rfl) (fun j run key' hrun hkey honce hp => ?_)
      ⟨hsettled, htodo⟩
    rcases hmade j run key' hrun hkey honce hp with hsame | hmem | hmarked
    · exact .inl (by rw [hsame]; exact mem_cons_self)
    · exact .inl (mem_cons_of_mem _ hmem)
    · exact .inr hmarked
  · refine h.rephase (markNext_devices f _) (markNext_phase_ne f _) (fun _ => .inl rfl)
      (fun j run key' hrun hkey honce hp => ?_) (truthful_markNext hsettled hrest)
    rcases hmade j run key' hrun hkey honce hp with hsame | hmem | hmarked
    · -- the only device of a slot finds its bytes there
      obtain ⟨e, he⟩ := (h.tracked j run key' hrun hkey).present honce (.inr hp)
      rw [hsame, hnone] at he
      exact absurd he (by simp)
    · exact .inl (markLeft_markNext hmem)
    · exact .inr hmarked
  · have hcache := marked_cases cache e hhandled
    refine h.rephase (markNext_devices f _) (markNext_phase_ne f _) hcache
      (fun j run key' hrun hkey honce hp => ?_) (truthful_markNext hsettled hrest)
    rcases hmade j run key' hrun hkey honce hp with hsame | hmem | ⟨e', he', hdelivered⟩
    · rw [hsame]
      exact .inr ⟨_, get?_set_self _ _ _, rfl⟩
    · exact .inl (markLeft_markNext hmem)
    · rcases hcache key' with hkeep | ⟨-, hmarked⟩
      · exact .inr ⟨e', hkeep.trans he', hdelivered⟩
      · exact .inr hmarked

/-! ### Runs -/

/-- The fan-out `i` serves its targets. It began at the sender `w₀`. -/
def Sender.Serves (w₀ : Sender) (times : List Int) (targets : List Target) (i : Nat)
    (w : Sender) : Prop :=
  ∃ f done, w.fanouts.get? i = some f ∧ w.log = done ++ w₀.log ∧ w.clock ∈ times ∧
    Serving w₀.cache times targets w.cache done f

variable {w₀ w : Sender} {i : Nat}

theorem serves_put {v : Sender} (hlog : v.log = done ++ w₀.log) (hnow : v.clock ∈ times)
    (h : Serving w₀.cache times targets v.cache done f) :
    Serves w₀ times targets i (v.put i f) :=
  ⟨f, done, get?_set_self _ _ _, hlog, hnow, h⟩

section

variable (h : Serves w₀ times targets i w)
include h

theorem serves_deviceStep (k : Nat) (fate : Response)
    (queued : Bool) : Serves w₀ times targets i (w.deviceStep i k fate queued) := by
  obtain ⟨f, done, hf, hlog, hnow, hserving⟩ := id h
  unfold deviceStep
  rw [hf]
  dsimp only
  by_cases hsending : f.phase = .sending
  · rw [if_pos hsending]
    cases hrun : f.devices[k]? with
    | none => exact h
    | some run =>
      obtain ⟨added, hgrown, hnext⟩ := hserving.advance hsending hnow hrun fate queued
      have hclock := (advanceDevice_frame run fate queued w).2.1
      refine serves_put ?_ ?_ hnext
      · rw [hgrown, hlog, append_assoc]
      · rw [hclock]
        exact hnow
  · rw [if_neg hsending]
    exact h

theorem serves_collect :
    Serves w₀ times targets i (w.collect i) := by
  obtain ⟨f, done, hf, hlog, hnow, hserving⟩ := id h
  unfold collect
  rw [hf]
  dsimp only
  by_cases hready : f.phase = .sending ∧ ∀ run ∈ f.devices, run.Settled
  · rw [if_pos hready]
    exact serves_put hlog hnow (hserving.collect hready.2)
  · rw [if_neg hready]
    exact h

theorem serves_markStep (fate : Response) :
    Serves w₀ times targets i (w.markStep i fate) := by
  obtain ⟨f, done, hf, hlog, hnow, hserving⟩ := id h
  have hthrew : Serves w₀ times targets i (w.put i { f with phase := .threw }) :=
    serves_put hlog hnow (hserving.threw fun _ => .inl rfl)
  unfold markStep
  rw [hf]
  dsimp only
  cases hphase : f.phase with
  | sending => exact h
  | returned sentCount queuedCount => exact h
  | incomplete failedCount => exact h
  | threw => exact h
  | marking todo read =>
    cases todo with
    | nil => exact h
    | cons key todo =>
      obtain ⟨hhandled, hread, hmissing, hwritten⟩ := hserving.mark hphase
      cases read with
      | none =>
        cases fate with
        | throws => exact hthrew
        | throwsLate => exact hthrew
        | ok =>
          dsimp only
          cases hget : w.cache.get? key with
          | none => exact serves_put hlog hnow (hmissing hget)
          | some e => exact serves_put hlog hnow (hread e)
      | some e =>
        have hlogged : (w.mark key e).log = (.marked key :: done) ++ w₀.log := by
          rw [cons_append, ← hlog]
          rfl
        cases fate with
        | throws => exact hthrew
        | ok => exact serves_put hlogged hnow ((hwritten e).noteMark key)
        | throwsLate =>
          exact serves_put hlogged hnow
            ((hserving.threw (marked_cases w.cache e hhandled)).noteMark key)

/-- **One step**, of the fan-out or of the clock. -/
theorem serves_step {e : SenderEvent} (hof : e.Of i)
    (htick : ∀ nowMs, e = .tick nowMs → nowMs ∈ times) :
    Serves w₀ times targets i (w.step e) := by
  cases e with
  | fanOut call => exact hof.elim
  | device j k fate queued =>
    rw [show j = i from hof]
    exact serves_deviceStep h k fate queued
  | collect j =>
    rw [show j = i from hof]
    exact serves_collect h
  | mark j fate =>
    rw [show j = i from hof]
    exact serves_markStep h fate
  | tick nowMs =>
    obtain ⟨f, done, hf, hlog, -, hserving⟩ := h
    exact ⟨f, done, hf, hlog, htick nowMs rfl, hserving⟩
  | prune key => exact hof.elim
  | crash => exact hof.elim

end

theorem serving_start (prior : OrdMap String FanoutEntry) (times : List Int)
    (ownerAccountId peer : String) (call : FanoutCall) (devices : List PeerDevice) :
    Serving prior times (targetsOf ownerAccountId peer call devices) prior []
      ⟨devices.map (start ownerAccountId peer call.outbound.eventTag call.body),
        .sending⟩ := by
  have hstart : ∀ run ∈ devices.map
      (start ownerAccountId peer call.outbound.eventTag call.body),
      run.phase = .lookup ∨ run.phase = .settled .failed := by
    intro run hmem
    obtain ⟨device, -, rfl⟩ := mem_map.1 hmem
    exact start_phase _ _ _ _ device
  refine ⟨?_, fun _ key e he _ => he, fun key _ => ⟨rfl, fun n hn => absurd hn not_mem_nil⟩,
    fun k run key hrun _ => ?_, fun run hmem _ hp => ?_, fun _ _ _ _ _ _ _ => .inl trivial, trivial⟩
  · rw [List.map_map]
    rfl
  · rcases hstart run (mem_of_getElem? hrun) with hp | hp
    · rw [hp]
      refine ⟨fun h => absurd h (by simp), ?_, fun _ => .inl rfl, ?_, fun _ h => absurd h (by simp)⟩
      · rintro ⟨queued, h⟩
        exact absurd h (by simp)
      · rintro - (⟨s, h⟩ | ⟨queued, h⟩)
        · exact absurd h (by simp)
        · exact absurd h (by simp)
    · rw [hp]
      exact tracked_failed
  · rcases hstart run hmem with hstart | hstart
    · exact absurd (hstart.symm.trans hp) (by simp)
    · exact absurd (hstart.symm.trans hp) (by simp)

/-! ### What comes of it -/

theorem slotKey_injective {ownerAccountId peer messageId d d' : String}
    (h : slotKey ⟨ownerAccountId, peer, messageId, d⟩ =
      slotKey ⟨ownerAccountId, peer, messageId, d'⟩) : d = d' := by
  have hmaterial := (String.append_right_inj _).1 h
  have hrest := (String.append_right_inj _).1 ((String.append_right_inj _).1 hmaterial)
  exact (String.append_right_inj _).1 hrest

theorem keyFor_injective {ownerAccountId peer messageId d d' : String}
    (h : keyFor ownerAccountId peer messageId d = some key)
    (h' : keyFor ownerAccountId peer messageId d' = some key) : d = d' := by
  unfold keyFor at h h'
  by_cases hnone : ownerAccountId = "" ∨ messageId = ""
  · rw [if_pos hnone] at h
    exact absurd h (by simp)
  · rw [if_neg hnone, some_inj] at h h'
    exact slotKey_injective (h.trans h'.symm)

/-- A device that the set names once has its slot to itself. -/
theorem once_of_named {ownerAccountId peer : String} {call : FanoutCall}
    {devices : List PeerDevice} (hnamed : NamedOnce devices k)
    (hserved : f.devices.map target = targetsOf ownerAccountId peer call devices)
    (hrun : f.devices[k]? = some run) (hkey : run.key = some key) :
    Once (targetsOf ownerAccountId peer call devices) k := by
  have hslot : ∀ j : Nat, ((targetsOf ownerAccountId peer call devices)[j]?).map Prod.fst =
      (devices[j]?).map fun device : PeerDevice =>
        keyFor ownerAccountId peer call.outbound.eventTag (trim device.deviceId) := by
    intro j
    rw [targetsOf, getElem?_map, Option.map_map]
    rfl
  intro j hj
  -- the key is that of the device at `k`, and so of the one at `j`
  have hk : ((targetsOf ownerAccountId peer call devices)[k]?).map Prod.fst = some (some key) := by
    rw [← hserved, getElem?_map, hrun]
    simp only [map_some, target, hkey]
  rw [hk, hslot, map_eq_some_iff] at hj
  rw [hslot, map_eq_some_iff] at hk
  obtain ⟨device, hdevice, hkeyed⟩ := hj
  obtain ⟨device', hdevice', hkeyed'⟩ := hk
  refine hnamed j ?_
  rw [hdevice, hdevice', map_some, map_some, keyFor_injective hkeyed hkeyed']

theorem Serving.honest {ownerAccountId peer : String} {call : FanoutCall}
    {devices : List PeerDevice}
    (h : Serving prior times (targetsOf ownerAccountId peer call devices) cache done f) :
    Honest prior cache times devices done f := by
  have hlength : f.devices.length = devices.length := by
    have hmapped := congrArg length h.served
    rwa [length_map, targetsOf, length_map] at hmapped
  have htruthful := h.truthful
  unfold Truthful at htruthful
  refine ⟨fun sentCount queuedCount hphase => ?_, fun failedCount hphase => ?_,
    fun run hmem hp => ?_, fun run hmem key hkey hp => ?_,
    fun hended k run key hrun hkey hnamed hp => ?_, fun key hs => (h.spared key hs).2⟩
  · rw [hphase, hlength] at htruthful
    exact htruthful
  · rw [hphase] at htruthful
    exact htruthful
  · rcases eq_none_or_eq_some run.key with hkey | ⟨key, hkey⟩
    · exact absurd hp (h.keyless run hmem hkey)
    · obtain ⟨k, hk⟩ := mem_iff_getElem?.1 hmem
      exact ⟨key, hkey, (h.tracked k run key hk hkey).already hp⟩
  · obtain ⟨k, hk⟩ := mem_iff_getElem?.1 hmem
    exact (h.tracked k run key hk hkey).handled hp
  · have honce := once_of_named hnamed h.served hrun hkey
    rcases hp with hp | hp
    · exact (h.tracked k run key hrun hkey).marked honce hp
    · refine (h.made k run key hrun hkey honce hp).resolve_left fun hleft => ?_
      unfold Ended at hended
      unfold MarkLeft at hleft
      split at hended
      · rename_i hphase
        rw [hphase] at hleft
        exact hleft
      · rename_i hphase
        rw [hphase] at hleft
        exact hleft
      · exact hended
      · exact hended
      · exact hended

end Invariant

/-- A fan-out goes back to a single device, while the gate is open, only if the peer has
published no device set. Otherwise it serves each device of the set, whatever the set and the
slots, whatever fails and in whatever order its operations come: it returns only if every device
was reached; if it is incomplete or returns, the devices that were reached are marked; and a
device whose mark it finds is not dispatched to. -/
theorem fanOut_honest (w : Sender) (call : FanoutCall) :
    (call.start = .singleDevice → call.multiDeviceFanout = true → call.resolved = .noSet) ∧
    ∀ peer devices, call.start = .fanOut peer devices →
      ∀ events : List SenderEvent, (∀ e ∈ events, e.Of w.begun) →
        ∃ f done, ((w.begin call).after events).fanouts.get? w.begun = some f ∧
          ((w.begin call).after events).log = done ++ w.log ∧
          f.devices.map target = targetsOf w.ownerAccountId peer call devices ∧
          Honest w.cache ((w.begin call).after events).cache (readings w.clock events) devices
            done f := by
  refine ⟨fun hstart hopen => ?_, fun peer devices hstart events hevents => ?_⟩
  · unfold FanoutCall.start at hstart
    rw [if_neg (by rw [hopen]; simp)] at hstart
    split at hstart
    · exact absurd hstart (by simp)
    · split at hstart
      · exact absurd hstart (by simp)
      · split at hstart
        · exact absurd hstart (by simp)
        · assumption
        · exact absurd hstart (by simp)
        · exact absurd hstart (by simp)
  · have hbegin : Sender.Serves w (readings w.clock events)
        (targetsOf w.ownerAccountId peer call devices) w.begun (w.begin call) := by
      unfold begin
      rw [hstart]
      exact ⟨_, [], get?_set_self _ _ _, rfl, mem_cons_self,
        serving_start w.cache _ _ peer call devices⟩
    have hmeets : Runs.Meets step (fun _ e => e.Of w.begun ∧
        ∀ nowMs, e = .tick nowMs → nowMs ∈ readings w.clock events) (w.begin call) events := by
      refine Runs.meets_of_forall _ events _ fun e he _ => ⟨hevents e he, fun nowMs htick => ?_⟩
      refine mem_cons_of_mem _ (mem_filterMap.2 ⟨e, he, ?_⟩)
      rw [htick]
    obtain ⟨f, done, hf, hlog, -, hserving⟩ :=
      Runs.invariant (I := Sender.Serves w (readings w.clock events)
        (targetsOf w.ownerAccountId peer call devices) w.begun) step
        (fun _ e h hok => serves_step h hok.1 hok.2) events _ hbegin hmeets
    exact ⟨f, done, hf, hlog, hserving.served, hserving.honest⟩

/-- A message to the two devices of bob. -/
def toBobs : FanoutCall :=
  ⟨true, true, "bob", .message "m1", "hello", .set [⟨"b1", "i1"⟩, ⟨"b2", "i2"⟩]⟩

/-- The first device is reached, the second is not: the fan-out is incomplete, and the first is
marked. -/
theorem fanOut_honest_partly : ∃ f,
    (((fresh "alice" 0).begin toBobs).after
      [.device 0 0 .ok false, .device 0 1 .ok false, .device 0 0 .ok false, .device 0 1 .throws false,
        .device 0 0 .ok false, .device 0 0 .ok true, .collect 0, .mark 0 .ok,
        .mark 0 .ok]).fanouts.get? 0 = some f ∧
    f.phase = .incomplete 1 ∧
    Marked (((fresh "alice" 0).begin toBobs).after
      [.device 0 0 .ok false, .device 0 1 .ok false, .device 0 0 .ok false, .device 0 1 .throws false,
        .device 0 0 .ok false, .device 0 0 .ok true, .collect 0, .mark 0 .ok,
        .mark 0 .ok]).cache (slotKey ⟨"alice", "bob", "m1", "b1"⟩) := by
  obtain ⟨f, done, hf, -, -, hhonest⟩ := (fanOut_honest (fresh "alice" 0) toBobs).2 "bob"
    [⟨"b1", "i1"⟩, ⟨"b2", "i2"⟩] (by decide)
    [.device 0 0 .ok false, .device 0 1 .ok false, .device 0 0 .ok false, .device 0 1 .throws false,
      .device 0 0 .ok false, .device 0 0 .ok true, .collect 0, .mark 0 .ok, .mark 0 .ok] (by decide)
  have hfinal : f = ⟨[⟨some (slotKey ⟨"alice", "bob", "m1", "b1"⟩), "b1", "i1", "hello",
      .settled (.handled true)⟩, ⟨some (slotKey ⟨"alice", "bob", "m1", "b2"⟩), "b2", "i2", "hello",
      .settled .failed⟩], .incomplete 1⟩ := some_inj.1 (hf.symm.trans (by decide))
  have hnamed : NamedOnce [⟨"b1", "i1"⟩, ⟨"b2", "i2"⟩] 0 := by
    intro j hj
    match j with
    | 0 => rfl
    | 1 => exact absurd hj (by decide)
    | j + 2 => exact absurd hj (by simp)
  rw [hfinal] at hf hhonest
  exact ⟨_, hf, rfl, hhonest.marked trivial 0 _ _ rfl rfl hnamed (.inr ⟨true, rfl⟩)⟩

/-- The gate is open, the peer has published no set, and the send is to a single device. -/
theorem singleDevice_noSet : ¬ ∀ call : FanoutCall,
    call.multiDeviceFanout = true → call.start ≠ .singleDevice :=
  fun h => h ⟨true, true, "bob", .message "m1", "hello", .noSet⟩ rfl (by decide)

end RezChat.Delivery
