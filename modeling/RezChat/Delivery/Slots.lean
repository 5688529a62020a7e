/-
Whose bytes are in a slot.

A slot is named after the account, the peer, the event tag and the device, and the tag is all
that tells two bodies to the same device apart. A message has its id for a tag, but a mutation
has the time at which it is delivered: two edits, or an edit and a reaction, of the same
millisecond share their slots, and the second one finds the bytes of the first, or its mark
(`sameMillisecond`).
-/
import RezChat.Delivery.Replay

set_option autoImplicit false

namespace RezChat.Delivery

open Inbox (trim toString_injective)
open Devices (PeerDevice)
open List Option Sender DevicePhase

/-! ## The law -/

/-- One device that a fan-out serves with a body. -/
structure Send where
  peer : String
  outbound : Outbound
  body : String
  peerDeviceId : String
  deriving DecidableEq

def Send.slot (ownerAccountId : String) (s : Send) : String :=
  slotKey ⟨ownerAccountId, s.peer, s.outbound.eventTag, s.peerDeviceId⟩

/-- What a call sends. -/
def FanoutCall.sends (call : FanoutCall) : List Send :=
  match call.start with
  | .singleDevice | .throws => []
  | .fanOut peer devices =>
    devices.map fun device => ⟨peer, call.outbound, call.body, trim device.deviceId⟩

/-- What is sent in a run. -/
def sends (events : List SenderEvent) : List Send :=
  events.flatMap fun
    | .fanOut call => call.sends
    | _ => []

/-- Two different bodies that are sent to the same device. -/
def Send.Contends (s s' : Send) : Prop :=
  s.peer = s'.peer ∧ s.peerDeviceId = s'.peerDeviceId ∧ s.body ≠ s'.body

instance (s s' : Send) : Decidable (s.Contends s') := by
  unfold Send.Contends
  infer_instance

/-- Different bodies have different slots. -/
def SlotsApart (ownerAccountId : String) (events : List SenderEvent) : Prop :=
  ∀ s ∈ sends events, ∀ s' ∈ sends events, s.Contends s' →
    s.slot ownerAccountId ≠ s'.slot ownerAccountId

/-- Every device finds its own body in its slot, and dispatches its own body. -/
def OwnBodies (w : Sender) : Prop :=
  ∀ i f, w.fanouts.get? i = some f → ∀ run ∈ f.devices, ∀ key, run.key = some key →
    (∀ e, w.cache.get? key = some e → e.sealedBody.body = run.body) ∧
      ∀ s, run.phase.bytes = some s → s.body = run.body

/-! ## The condition -/

/-- Two messages with different ids, two mutations of different times, or a message whose id is
not the tag of the mutation. -/
def Outbound.Apart : Outbound → Outbound → Prop
  | .message messageId, .message messageId' => messageId ≠ messageId'
  | .mutation deliveredAtMs, .mutation deliveredAtMs' => deliveredAtMs ≠ deliveredAtMs'
  | .message messageId, .mutation deliveredAtMs | .mutation deliveredAtMs, .message messageId =>
    messageId ≠ "mut-" ++ toString deliveredAtMs

instance (o o' : Outbound) : Decidable (o.Apart o') := by
  unfold Outbound.Apart
  split <;> infer_instance

/-- Different bodies to the same device differ in their ids, or in their times. -/
def BodiesApart (events : List SenderEvent) : Prop :=
  ∀ s ∈ sends events, ∀ s' ∈ sends events, s.Contends s' → s.outbound.Apart s'.outbound

instance (events : List SenderEvent) : Decidable (BodiesApart events) := by
  unfold BodiesApart
  infer_instance

/-! ## The slots -/

theorem apart_iff (o o' : Outbound) : o.Apart o' ↔ o.eventTag ≠ o'.eventTag := by
  cases o with
  | message messageId =>
    cases o' with
    | message messageId' => exact .rfl
    | mutation deliveredAtMs => exact .rfl
  | mutation deliveredAtMs =>
    cases o' with
    | message messageId => exact ⟨fun h htag => h htag.symm, fun h htag => h htag.symm⟩
    | mutation deliveredAtMs' =>
      refine ⟨fun h htag => h ?_, fun h hsame => h (by rw [hsame])⟩
      exact toString_injective ((String.append_right_inj _).1 htag)

/-- To the same device, different tags are different slots. -/
theorem slotKey_tag_iff (ownerAccountId peer peerDeviceId tag tag' : String) :
    slotKey ⟨ownerAccountId, peer, tag, peerDeviceId⟩ =
      slotKey ⟨ownerAccountId, peer, tag', peerDeviceId⟩ ↔ tag = tag' := by
  refine ⟨fun h => ?_, fun h => by rw [h]⟩
  have hmaterial := (String.append_right_inj _).1 h
  have hrest := (String.append_right_inj _).1 ((String.append_right_inj _).1 hmaterial)
  exact (String.append_left_inj _).1 ((String.append_left_inj _).1 hrest)

theorem slot_iff {ownerAccountId : String} {s s' : Send} (h : s.Contends s') :
    s.slot ownerAccountId ≠ s'.slot ownerAccountId ↔ s.outbound.Apart s'.outbound := by
  obtain ⟨hpeer, hdevice, -⟩ := h
  rw [apart_iff, Send.slot, Send.slot, hpeer, hdevice]
  exact not_congr (slotKey_tag_iff _ _ _ _ _)

/-- A character that is on neither side of its first occurrence. -/
theorem append_cons_inj {α : Type} {c : α} : ∀ {l l' r r' : List α}, c ∉ l → c ∉ l' →
    l ++ c :: r = l' ++ c :: r' → l = l' ∧ r = r'
  | [], [], _, _, _, _, h => ⟨rfl, (cons.inj h).2⟩
  | [], a :: l', _, _, _, hl', h => by
    have hhead := (cons.inj h).1
    rw [hhead] at hl'
    exact absurd mem_cons_self hl'
  | a :: l, [], _, _, hl, _, h => by
    have hhead := (cons.inj h).1
    rw [hhead] at hl
    exact absurd mem_cons_self hl
  | a :: l, b :: l', r, r', hl, hl', h => by
    obtain ⟨hhead, htail⟩ := cons.inj h
    have hrest := append_cons_inj (fun hc => hl (mem_cons_of_mem a hc))
      (fun hc => hl' (mem_cons_of_mem b hc)) htail
    exact ⟨by rw [hhead, hrest.1], hrest.2⟩

/-- No NUL in the ids of the peer and of the device. -/
def Send.Legible (s : Send) : Prop :=
  Char.ofNat 0 ∉ s.peer.toList ∧ Char.ofNat 0 ∉ s.peerDeviceId.toList

instance (s : Send) : Decidable s.Legible := by
  unfold Send.Legible
  infer_instance

/-- Legible sends that share a slot are to the same device. -/
theorem same_device {ownerAccountId : String} {s s' : Send} (hs : s.Legible) (hs' : s'.Legible)
    (hslot : s.slot ownerAccountId = s'.slot ownerAccountId) :
    s.peer = s'.peer ∧ s.peerDeviceId = s'.peerDeviceId := by
  have hmaterial := (String.append_right_inj _).1 ((String.append_right_inj _).1 hslot)
  have hlist := congrArg String.toList hmaterial
  simp only [String.toList_append, String.toList_singleton, append_assoc,
    singleton_append] at hlist
  -- the peer is what comes before the first NUL, the device what comes after the last
  obtain ⟨hpeer, hrest⟩ := append_cons_inj hs.1 hs'.1 hlist
  have hreversed := congrArg reverse hrest
  simp only [reverse_append, reverse_cons, append_assoc,
    singleton_append] at hreversed
  have hdevice := (append_cons_inj (by rw [mem_reverse]; exact hs.2)
    (by rw [mem_reverse]; exact hs'.2) hreversed).1
  exact ⟨String.toList_inj.1 hpeer, String.toList_inj.1 (reverse_injective hdevice)⟩

/-! ## The bytes -/

/-- What is sent under the key. -/
def Belongs (ownerAccountId : String) (events : List SenderEvent) (key body : String) : Prop :=
  ∃ s ∈ sends events, s.slot ownerAccountId = key ∧ s.body = body

/-- What is stored, or under way, was sent under its key. -/
structure Stowed (ownerAccountId : String) (events : List SenderEvent) (w : Sender) : Prop where
  owner : w.ownerAccountId = ownerAccountId
  entries : ∀ key e, w.cache.get? key = some e → Belongs ownerAccountId events key e.sealedBody.body
  runs : ∀ i f, w.fanouts.get? i = some f → ∀ run ∈ f.devices, ∀ key, run.key = some key →
    Belongs ownerAccountId events key run.body ∧
      ∀ s, run.phase.bytes = some s → Belongs ownerAccountId events key s.body
  marking : ∀ i f, w.fanouts.get? i = some f → ∀ key todo e,
    f.phase = .marking (key :: todo) (some e) →
      Belongs ownerAccountId events key e.sealedBody.body

section Invariant

variable {ownerAccountId : String} {events : List SenderEvent} {w v : Sender} {i k : Nat}
  {f f' : Fanout} {run : DeviceRun} {p : DevicePhase}

section

variable (h : Stowed ownerAccountId events w)
include h

theorem Stowed.dropEntry (key : String) :
    Stowed ownerAccountId events (w.dropEntry key) := by
  refine ⟨h.owner, fun key' e he => ?_, h.runs, h.marking⟩
  have hget : (w.cache.delete key).get? key' = some e := he
  rw [OrdMap.get?_delete] at hget
  by_cases hsame : key' = key
  · rw [if_pos hsame] at hget
    exact absurd hget (by simp)
  · rw [if_neg hsame] at hget
    exact h.entries key' e hget

theorem Stowed.storeEntry {key : String} {e : FanoutEntry}
    (he : Belongs ownerAccountId events key e.sealedBody.body) :
    Stowed ownerAccountId events (w.storeEntry key e) := by
  refine ⟨h.owner, fun key' e' he' => ?_, h.runs, h.marking⟩
  have hget : (w.cache.set key e).get? key' = some e' := he'
  rw [OrdMap.get?_set] at hget
  by_cases hsame : key' = key
  · rw [if_pos hsame, some_inj] at hget
    rw [hsame, ← hget]
    exact he
  · rw [if_neg hsame] at hget
    exact h.entries key' e' hget

/-- A fan-out is written. -/
theorem Stowed.put
    (hruns : ∀ run ∈ f.devices, ∀ key, run.key = some key →
      Belongs ownerAccountId events key run.body ∧
        ∀ s, run.phase.bytes = some s → Belongs ownerAccountId events key s.body)
    (hmarking : ∀ key todo e, f.phase = .marking (key :: todo) (some e) →
      Belongs ownerAccountId events key e.sealedBody.body) :
    Stowed ownerAccountId events (w.put i f) :=
  ⟨h.owner, h.entries, forall_put h.runs hruns, forall_put h.marking hmarking⟩

end

/-- The bytes of a lookup are those of the slot. -/
theorem lookupPhase_bytes {nowMs : Int} {entry : Option FanoutEntry} {s : Sealed}
    (h : (lookupPhase nowMs entry).bytes = some s) : ∃ e, entry = some e ∧ e.sealedBody = s := by
  cases entry with
  | none => exact absurd h (by simp [lookupPhase, bytes])
  | some e =>
    refine ⟨e, rfl, ?_⟩
    rw [lookupPhase] at h
    by_cases hexpired : e.Expired nowMs
    · rw [if_pos hexpired] at h
      exact absurd h (by simp [bytes])
    · rw [if_neg hexpired] at h
      by_cases hdelivered : e.deliveredOk = true
      · rw [if_pos hdelivered] at h
        exact absurd h (by simp [bytes])
      · rw [if_neg hdelivered] at h
        exact some_inj.1 h

/-- **One operation of a device.** -/
theorem Stowed.advance (h : Stowed ownerAccountId events w)
    (hf : w.fanouts.get? i = some f) (hrun : run ∈ f.devices) (fate : Response) (queued : Bool) :
    Stowed ownerAccountId events (advanceDevice run fate queued w).2 ∧
      ∀ key, run.key = some key → ∀ s, (advanceDevice run fate queued w).1.bytes = some s →
        Belongs ownerAccountId events key s.body := by
  rcases eq_none_or_eq_some run.key with hkey | ⟨key, hkey⟩
  · refine ⟨?_, fun key hk => ?_⟩
    · have hframe := advanceDevice_frame run fate queued w
      have hcache := (advanceDevice_keyless_cache run fate queued w hkey).1
      refine ⟨hframe.1.trans h.owner, ?_, ?_, ?_⟩
      · rw [hcache]
        exact h.entries
      · rw [hframe.2.2]
        exact h.runs
      · rw [hframe.2.2]
        exact h.marking
    · rw [hkey] at hk
      exact absurd hk (by simp)
  · obtain ⟨hbody, hbytes⟩ := h.runs i f hf run hrun key hkey
    -- what is said of the key is said of every key of the device
    have hone : ∀ {p : DevicePhase}, (∀ s, p.bytes = some s →
        Belongs ownerAccountId events key s.body) → ∀ key', run.key = some key' → ∀ s,
          p.bytes = some s → Belongs ownerAccountId events key' s.body := by
      intro p hp key' hk
      rw [hkey, some_inj] at hk
      rw [← hk]
      exact hp
    have hnone : ∀ {p : DevicePhase}, p = .sealing ∨ p = .settled .failed ∨
        p = .settled (.handled queued) → ∀ s, p.bytes = some s →
          Belongs ownerAccountId events key s.body := by
      rintro p (rfl | rfl | rfl) s hs
      · exact absurd hs (by simp [bytes])
      · exact absurd hs (by simp [bytes])
      · exact absurd hs (by simp [bytes])
    rcases advanceDevice_cases run fate queued w hkey with ⟨hw, hp⟩ | ⟨-, hadv⟩ |
      ⟨-, hw, hp⟩ | ⟨-, hadv⟩ | ⟨s, hphase, hw, hp⟩ | ⟨s, -, hw, hp⟩
    · rw [hw]
      refine ⟨h, hone ?_⟩
      rcases hp with hp | hp
      · rw [hp]
        exact hbytes
      · exact hnone (.inr (.inl hp))
    · rw [hadv]
      refine ⟨h, hone fun s hs => ?_⟩
      obtain ⟨e, he, rfl⟩ := lookupPhase_bytes hs
      exact h.entries key e he
    · rw [hw]
      exact ⟨h.dropEntry key, hone (hnone (hp.imp_right .inl))⟩
    · rw [hadv]
      refine ⟨⟨h.owner, h.entries, h.runs, h.marking⟩, hone fun s hs => ?_⟩
      rw [← some_inj.1 hs]
      exact hbody
    · have hs : Belongs ownerAccountId events key s.body := hbytes s (by rw [hphase]; rfl)
      rw [hw]
      refine ⟨h.storeEntry hs, hone ?_⟩
      rcases hp with hp | hp
      · rw [hp]
        intro s' hs'
        rw [← some_inj.1 hs']
        exact hs
      · exact hnone (.inr (.inl hp))
    · rw [hw]
      exact ⟨⟨h.owner, h.entries, h.runs, h.marking⟩, hone (hnone (.inr hp.symm))⟩

theorem Stowed.deviceStep (h : Stowed ownerAccountId events w) (i k : Nat) (fate : Response)
    (queued : Bool) : Stowed ownerAccountId events (w.deviceStep i k fate queued) := by
  unfold Sender.deviceStep
  cases hf : w.fanouts.get? i with
  | none => exact h
  | some f =>
    dsimp only
    by_cases hsending : f.phase = .sending
    · rw [if_pos hsending]
      cases hrun : f.devices[k]? with
      | none => exact h
      | some run =>
        have hmem : run ∈ f.devices := mem_of_getElem? hrun
        obtain ⟨hnext, hbytes⟩ := h.advance hf hmem fate queued
        refine hnext.put (fun run' hrun' key hkey => ?_) fun key todo e hmarking => ?_
        · rcases mem_or_eq_of_mem_set hrun' with hold | rfl
          · exact h.runs i f hf run' hold key hkey
          · exact ⟨(h.runs i f hf run hmem key hkey).1, hbytes key hkey⟩
        · exact absurd (hsending.symm.trans hmarking) (by simp)
    · rw [if_neg hsending]
      exact h

theorem markNext_phase_ne_read (f : Fanout) (todo todo' : List String) (e : FanoutEntry) :
    (f.markNext todo).phase ≠ .marking todo' (some e) := by
  cases todo with
  | nil =>
    show f.finish.phase ≠ _
    unfold Fanout.finish
    split
    · simp
    · simp
  | cons key todo => simp [Fanout.markNext]

section

variable (h : Stowed ownerAccountId events w)
include h

/-- A fan-out goes on to its next mark, or ends. -/
theorem Stowed.markNext
    (hruns : ∀ run ∈ f.devices, ∀ key, run.key = some key →
      Belongs ownerAccountId events key run.body ∧
        ∀ s, run.phase.bytes = some s → Belongs ownerAccountId events key s.body)
    (todo : List String) : Stowed ownerAccountId events (w.put i (f.markNext todo)) := by
  refine h.put ?_ fun key todo' e hmarking => absurd hmarking (markNext_phase_ne_read f _ _ e)
  rw [markNext_devices]
  exact hruns

theorem Stowed.collect (i : Nat) :
    Stowed ownerAccountId events (w.collect i) := by
  unfold Sender.collect
  cases hf : w.fanouts.get? i with
  | none => exact h
  | some f =>
    dsimp only
    by_cases hready : f.phase = .sending ∧ ∀ run ∈ f.devices, run.Settled
    · rw [if_pos hready]
      exact h.markNext (h.runs i f hf) _
    · rw [if_neg hready]
      exact h

theorem Stowed.mark {key : String} {e : FanoutEntry}
    (he : Belongs ownerAccountId events key e.sealedBody.body) :
    Stowed ownerAccountId events (w.mark key e) := by
  have hstored := h.storeEntry (e := { e with deliveredOk := true }) he
  exact ⟨hstored.owner, hstored.entries, hstored.runs, hstored.marking⟩

theorem Stowed.markStep (i : Nat) (fate : Response) :
    Stowed ownerAccountId events (w.markStep i fate) := by
  unfold Sender.markStep
  cases hf : w.fanouts.get? i with
  | none => exact h
  | some f =>
    dsimp only
    have hruns := h.runs i f hf
    -- the fan-out stops
    have hthrew : ∀ {v : Sender}, Stowed ownerAccountId events v →
        Stowed ownerAccountId events (v.put i { f with phase := .threw }) := by
      intro v hv
      exact hv.put hruns fun _ _ _ hmarking => absurd hmarking (by simp)
    cases hphase : f.phase with
    | sending => exact h
    | returned sentCount queuedCount => exact h
    | incomplete failedCount => exact h
    | threw => exact h
    | marking todo read =>
      cases todo with
      | nil => exact h
      | cons key todo =>
        cases read with
        | none =>
          cases fate with
          | throws => exact hthrew h
          | throwsLate => exact hthrew h
          | ok =>
            dsimp only
            cases hget : w.cache.get? key with
            | none => exact h.markNext hruns todo
            | some e =>
              refine h.put hruns fun key' todo' e' hmarking => ?_
              obtain ⟨htodo, hread⟩ := FanoutPhase.marking.inj hmarking
              rw [← (cons.inj htodo).1, ← some_inj.1 hread]
              exact h.entries key e hget
        | some e =>
          have hmarked := h.mark (h.marking i f hf key todo e hphase)
          cases fate with
          | throws => exact hthrew h
          | ok => exact hmarked.markNext hruns todo
          | throwsLate => exact hthrew hmarked

theorem Stowed.begin {call : FanoutCall}
    (hcall : .fanOut call ∈ events) : Stowed ownerAccountId events (w.begin call) := by
  unfold Sender.begin
  cases hstart : call.start with
  | singleDevice => exact h
  | throws => exact h
  | fanOut peer devices =>
    dsimp only
    refine ⟨h.owner, h.entries, forall_put h.runs fun run hrun key hkey => ?_,
      forall_put h.marking fun _ _ _ hmarking => absurd hmarking (by simp)⟩
    obtain ⟨device, hdevice, rfl⟩ := mem_map.1 hrun
    refine ⟨⟨⟨peer, call.outbound, call.body, trim device.deviceId⟩, ?_, ?_, rfl⟩, fun s hs => ?_⟩
    · refine mem_flatMap.2 ⟨.fanOut call, hcall, ?_⟩
      show _ ∈ call.sends
      unfold FanoutCall.sends
      rw [hstart]
      exact mem_map.2 ⟨device, hdevice, rfl⟩
    · have hslot : keyFor w.ownerAccountId peer call.outbound.eventTag (trim device.deviceId) =
        some key := hkey
      unfold keyFor at hslot
      split at hslot
      · exact absurd hslot (by simp)
      · rw [h.owner, some_inj] at hslot
        exact hslot
    · rcases start_phase w.ownerAccountId peer call.outbound.eventTag call.body device with hp | hp
      · rw [hp] at hs
        exact absurd hs (by simp [bytes])
      · rw [hp] at hs
        exact absurd hs (by simp [bytes])

/-- **One step.** What is stored, or under way, is what was sent under its key. -/
theorem Stowed.step {e : SenderEvent} (he : e ∈ events) :
    Stowed ownerAccountId events (w.step e) := by
  cases e with
  | fanOut call => exact h.begin he
  | device i k fate queued => exact h.deviceStep i k fate queued
  | collect i => exact h.collect i
  | mark i fate => exact h.markStep i fate
  | tick clock => exact ⟨h.owner, h.entries, h.runs, h.marking⟩
  | prune key =>
    show Stowed ownerAccountId events (w.prune key)
    unfold prune
    cases w.cache.get? key with
    | none => exact h
    | some e =>
      dsimp only
      by_cases hexpired : e.Expired w.clock
      · rw [if_pos hexpired]
        exact h.dropEntry key
      · rw [if_neg hexpired]
        exact h
  | crash =>
    refine ⟨h.owner, h.entries, fun i f hf => ?_, fun i f hf => ?_⟩
    · exact absurd hf (by simp [Sender.step])
    · exact absurd hf (by simp [Sender.step])

end

theorem stowed_fresh (ownerAccountId : String) (clock : Int) (events : List SenderEvent) :
    Stowed ownerAccountId events (fresh ownerAccountId clock) := by
  refine ⟨rfl, fun _ _ he => ?_, fun _ _ hf => ?_, fun _ _ hf => ?_⟩
  · exact absurd he (by simp [fresh])
  · exact absurd hf (by simp [fresh])
  · exact absurd hf (by simp [fresh])

/-- Bodies that are apart do not share a key. -/
theorem belongs_unique (hapart : BodiesApart events) (hlegible : ∀ s ∈ sends events, s.Legible)
    {key body body' : String} (h : Belongs ownerAccountId events key body)
    (h' : Belongs ownerAccountId events key body') : body = body' := by
  obtain ⟨s, hs, hslot, rfl⟩ := h
  obtain ⟨s', hs', hslot', rfl⟩ := h'
  have hsame : s.slot ownerAccountId = s'.slot ownerAccountId := hslot.trans hslot'.symm
  obtain ⟨hpeer, hdevice⟩ := same_device (hlegible s hs) (hlegible s' hs') hsame
  by_contra hbody
  have hcontends : s.Contends s' := ⟨hpeer, hdevice, hbody⟩
  exact (slot_iff hcontends).2 (hapart s hs s' hs' hcontends) hsame

end Invariant

/-- In every run, different bodies to the same device have different slots exactly when their ids
or times differ; and then, as long as the ids of peers and devices have no NUL in them, what a
device finds in its slot is its own body, in every state of the run, and so is what it
dispatches. -/
theorem slots_apart_iff (ownerAccountId : String) (clock : Int) (events : List SenderEvent) :
    (SlotsApart ownerAccountId events ↔ BodiesApart events) ∧
    (BodiesApart events → (∀ s ∈ sends events, s.Legible) →
      ∀ n, OwnBodies ((fresh ownerAccountId clock).after (events.take n))) := by
  refine ⟨⟨fun h s hs s' hs' hc => (slot_iff hc).1 (h s hs s' hs' hc),
    fun h s hs s' hs' hc => (slot_iff hc).2 (h s hs s' hs' hc)⟩, fun hapart hlegible n => ?_⟩
  have hmeets : Runs.Meets step (fun _ e => e ∈ events)
      (fresh ownerAccountId clock) (events.take n) :=
    Runs.meets_of_forall _ _ _ fun e he _ => mem_of_mem_take he
  have hstowed : Stowed ownerAccountId events
      ((fresh ownerAccountId clock).after (events.take n)) :=
    Runs.invariant (I := Stowed ownerAccountId events) step (fun _ _ h he => h.step he) _ _
      (stowed_fresh ownerAccountId clock events) hmeets
  intro i f hf run hrun key hkey
  obtain ⟨hown, hbytes⟩ := hstowed.runs i f hf run hrun key hkey
  exact ⟨fun e he => belongs_unique hapart hlegible (hstowed.entries key e he) hown,
    fun s hs => belongs_unique hapart hlegible (hbytes s hs) hown⟩

/-- A mutation for the one device of bob. -/
def mutationToBob (body : String) (deliveredAtMs : Nat) : FanoutCall :=
  ⟨true, true, "bob", .mutation deliveredAtMs, body, .set [⟨"b1", "i1"⟩]⟩

/-- A reaction one millisecond after an edit. -/
theorem slots_apart_later : ∀ n, OwnBodies ((fresh "alice" 0).after
    (List.take n [.fanOut (mutationToBob "edit" 5), .fanOut (mutationToBob "reaction" 6),
      .device 0 0 .ok false, .device 1 0 .ok false])) :=
  (slots_apart_iff "alice" 0 _).2 (by decide) (by decide)

/-- A reaction in the millisecond of an edit has the slot of the edit. -/
theorem sameMillisecond : ¬ ∀ ownerAccountId events, SlotsApart ownerAccountId events := by
  intro h
  exact h "alice" [.fanOut (mutationToBob "edit" 5), .fanOut (mutationToBob "reaction" 5)]
    ⟨"bob", .mutation 5, "edit", "b1"⟩ (by decide) ⟨"bob", .mutation 5, "reaction", "b1"⟩ (by decide)
    (by decide) rfl

end RezChat.Delivery
