/-
The device sets of peers (`services/ServerDeviceSetService.js`, `resolveForPeer`).

A peer publishes the set of its devices under a revision that only rises, and messages are sent
to the devices of the set that was accepted last. A set of a lower revision is a rollback: it
names devices that the peer has removed. The service hands the revision it knows to the SDK,
which refuses anything lower.

The revision it knows is the one in the cache entry, as it was when the fetch began. An
invalidation takes the entry away, so does an answer that there is no set, and a fetch that was
begun earlier does not know what was accepted since. Whether the revisions rise is therefore up
to what is answered to such a fetch (`accepted_rising_iff`).
-/
import RezChat.Inbox.Frame
import RezChat.Lib.OrdMap
import RezChat.Lib.Runs

set_option autoImplicit false

namespace RezChat.Devices

open Inbox (trim)

/-! ## Device sets -/

structure PeerDevice where
  deviceId : String
  inboxId : String
  deriving DecidableEq

/-- The signed set inside the sealed record. -/
structure DeviceSetRecord where
  revision : Int
  devices : List PeerDevice

/-- A cache entry. It is an object that callers hold on to, so it has a number of its own. -/
structure ResolvedSet where
  number : Nat
  deviceSetRecord : DeviceSetRecord
  fetchedAtMs : Int

/-- `existing.revision`, or 0. -/
def knownRevision : Option ResolvedSet → Int
  | some existing => existing.deviceSetRecord.revision
  | none => 0

/-- What comes of a fetch: there is no record, or one that opens and verifies, or something
fails on the way. -/
inductive SetAnswer where
  | noRecord
  | opened (deviceSetRecord : DeviceSetRecord)
  | failed

/-- What `ingestPeerDeviceSet` does with a set that verifies: a revision below `minRevision` is
`DEVICE_SET_STALE_REVISION`. -/
def Stale (minRevision : Int) (deviceSetRecord : DeviceSetRecord) : Prop :=
  deviceSetRecord.revision < minRevision

instance (minRevision : Int) (deviceSetRecord : DeviceSetRecord) :
    Decidable (Stale minRevision deviceSetRecord) :=
  inferInstanceAs (Decidable (_ < _))

/-! ## The service -/

/-- A call that waits for the home, with the entry that it found when it began. -/
structure SetFetch where
  peer : String
  existing : Option ResolvedSet

/-- The service, as far as it resolves sets. `accepted` is what was ingested for whom, newest
first; nothing reads it. -/
structure PeerSets where
  resolved : OrdMap String ResolvedSet
  fetches : OrdMap Nat SetFetch
  begun : Nat
  accepted : List (String × Int)

def PeerSets.fresh : PeerSets := ⟨OrdMap.empty, OrdMap.empty, 0, []⟩

/-- `DEVICE_SET_CACHE_TTL_MS`. -/
def deviceSetCacheTtlMs : Int := 5 * 60 * 1000

def PeerSets.fetch (peer : String) (d : PeerSets) : PeerSets :=
  { d with
    fetches := d.fetches.set d.begun ⟨peer, d.resolved.get? peer⟩
    begun := d.begun + 1 }

/-- `resolveForPeer`, up to the fetch. -/
def resolveForPeer (isEnabled : Bool) (peerAccountId : String) (forceRefresh : Bool)
    (nowMs : Int) (d : PeerSets) : PeerSets :=
  if isEnabled = true ∧ trim peerAccountId ≠ "" then
    match d.resolved.get? (trim peerAccountId) with
    | some existing =>
      if forceRefresh = false ∧ nowMs - existing.fetchedAtMs < deviceSetCacheTtlMs then d
      else d.fetch (trim peerAccountId)
    | none => d.fetch (trim peerAccountId)
  else d

/-- The entry that a call holds is stamped anew, which shows in the cache while it is there. -/
def PeerSets.touch (peer : String) (existing : ResolvedSet) (nowMs : Int) (d : PeerSets) :
    PeerSets :=
  match d.resolved.get? peer with
  | some current =>
    if current.number = existing.number then
      { d with resolved := d.resolved.set peer { current with fetchedAtMs := nowMs } }
    else d
  | none => d

def PeerSets.accept (i : Nat) (peer : String) (deviceSetRecord : DeviceSetRecord) (nowMs : Int)
    (d : PeerSets) : PeerSets :=
  { d with
    resolved := d.resolved.set peer ⟨i, deviceSetRecord, nowMs⟩
    accepted := (peer, deviceSetRecord.revision) :: d.accepted }

/-- `resolveForPeer`, from the answer on. -/
def settleResolve (i : Nat) (answer : SetAnswer) (nowMs : Int) (d : PeerSets) : PeerSets :=
  match d.fetches.get? i with
  | none => d
  | some f =>
    let d := { d with fetches := d.fetches.delete i }
    match answer with
    | .failed => d
    | .noRecord => { d with resolved := d.resolved.delete f.peer }
    | .opened deviceSetRecord =>
      if Stale (knownRevision f.existing) deviceSetRecord then
        match f.existing with
        | some existing => d.touch f.peer existing nowMs
        | none => d
      else d.accept i f.peer deviceSetRecord nowMs

/-- `invalidate`. -/
def PeerSets.invalidate (peerAccountId : String) (d : PeerSets) : PeerSets :=
  if trim peerAccountId = "" then d
  else { d with resolved := d.resolved.delete (trim peerAccountId) }

/-! ## Runs -/

inductive PeerSetEvent where
  | resolveForPeer (isEnabled : Bool) (peerAccountId : String) (forceRefresh : Bool)
      (nowMs : Int)
  | answer (i : Nat) (answer : SetAnswer) (nowMs : Int)
  | invalidate (peerAccountId : String)

def PeerSets.step (d : PeerSets) : PeerSetEvent → PeerSets
  | .resolveForPeer isEnabled peerAccountId forceRefresh nowMs =>
    Devices.resolveForPeer isEnabled peerAccountId forceRefresh nowMs d
  | .answer i answer nowMs => settleResolve i answer nowMs d
  | .invalidate peerAccountId => d.invalidate peerAccountId

/-- The service from its start. -/
def peerSetRun (events : List PeerSetEvent) : PeerSets :=
  Runs.run PeerSets.step PeerSets.fresh events

/-! ## The law -/

/-- No set was accepted for a peer after one of a higher revision. The newest comes first. -/
def Rising (accepted : List (String × Int)) : Prop :=
  accepted.Pairwise fun later earlier => later.1 = earlier.1 → earlier.2 ≤ later.2

/-- The revision does not fall between the floor that a fetch began with and what has been
accepted for the peer by the time it is answered. -/
def InOrder (d : PeerSets) : PeerSetEvent → Prop
  | .answer i (.opened deviceSetRecord) _ => ∀ f, d.fetches.get? i = some f →
      deviceSetRecord.revision < knownRevision f.existing ∨
        ∀ a ∈ d.accepted, a.1 = f.peer → a.2 ≤ deviceSetRecord.revision
  | _ => True

section Steps

variable {d : PeerSets}

@[simp] theorem accepted_touch (peer : String) (existing : ResolvedSet) (nowMs : Int) :
    (d.touch peer existing nowMs).accepted = d.accepted := by
  unfold PeerSets.touch
  cases d.resolved.get? peer with
  | none => rfl
  | some current =>
    dsimp only
    by_cases hsame : current.number = existing.number
    · rw [if_pos hsame]
    · rw [if_neg hsame]

@[simp] theorem accepted_invalidate (peerAccountId : String) :
    (d.invalidate peerAccountId).accepted = d.accepted := by
  unfold PeerSets.invalidate
  by_cases hblank : trim peerAccountId = ""
  · rw [if_pos hblank]
  · rw [if_neg hblank]

@[simp] theorem accepted_resolveForPeer (isEnabled : Bool) (peerAccountId : String)
    (forceRefresh : Bool) (nowMs : Int) :
    (resolveForPeer isEnabled peerAccountId forceRefresh nowMs d).accepted = d.accepted := by
  unfold resolveForPeer
  by_cases hcalled : isEnabled = true ∧ trim peerAccountId ≠ ""
  · rw [if_pos hcalled]
    cases d.resolved.get? (trim peerAccountId) with
    | none => rfl
    | some existing =>
      dsimp only
      by_cases hfresh : forceRefresh = false ∧ nowMs - existing.fetchedAtMs < deviceSetCacheTtlMs
      · rw [if_pos hfresh]
      · rw [if_neg hfresh]
        rfl
  · rw [if_neg hcalled]

/-- A set is accepted unless it is below the floor of its fetch. -/
theorem accepted_settleResolve {i : Nat} {f : SetFetch} (hf : d.fetches.get? i = some f)
    (deviceSetRecord : DeviceSetRecord) (nowMs : Int) :
    (settleResolve i (.opened deviceSetRecord) nowMs d).accepted =
      if Stale (knownRevision f.existing) deviceSetRecord then d.accepted
      else (f.peer, deviceSetRecord.revision) :: d.accepted := by
  unfold settleResolve
  rw [hf]
  dsimp only
  by_cases hstale : Stale (knownRevision f.existing) deviceSetRecord
  · rw [if_pos hstale, if_pos hstale]
    cases f.existing with
    | none => rfl
    | some existing => exact accepted_touch f.peer existing nowMs
  · rw [if_neg hstale, if_neg hstale]
    rfl

/-- **One step**: the revisions rise after it exactly when they did before and its answer is in
order. -/
theorem rising_step (d : PeerSets) (e : PeerSetEvent) :
    Rising (d.step e).accepted ↔ Rising d.accepted ∧ InOrder d e := by
  cases e with
  | resolveForPeer isEnabled peerAccountId forceRefresh nowMs =>
    show Rising (resolveForPeer isEnabled peerAccountId forceRefresh nowMs d).accepted ↔ _
    rw [accepted_resolveForPeer]
    exact (and_iff_left trivial).symm
  | invalidate peerAccountId =>
    show Rising (d.invalidate peerAccountId).accepted ↔ _
    rw [accepted_invalidate]
    exact (and_iff_left trivial).symm
  | answer i answer nowMs =>
    show Rising (settleResolve i answer nowMs d).accepted ↔ _
    cases hf : d.fetches.get? i with
    | none =>
      have hsame : settleResolve i answer nowMs d = d := by
        unfold settleResolve
        rw [hf]
      rw [hsame]
      cases answer with
      | opened deviceSetRecord =>
        refine ⟨fun h => ⟨h, fun f hf' => ?_⟩, fun h => h.1⟩
        rw [hf] at hf'
        exact absurd hf' (by simp)
      | noRecord => exact (and_iff_left trivial).symm
      | failed => exact (and_iff_left trivial).symm
    | some f =>
      cases answer with
      | noRecord =>
        have hsame : (settleResolve i .noRecord nowMs d).accepted = d.accepted := by
          unfold settleResolve
          rw [hf]
        rw [hsame]
        exact (and_iff_left trivial).symm
      | failed =>
        have hsame : (settleResolve i .failed nowMs d).accepted = d.accepted := by
          unfold settleResolve
          rw [hf]
        rw [hsame]
        exact (and_iff_left trivial).symm
      | opened deviceSetRecord =>
        rw [accepted_settleResolve hf]
        have horder : InOrder d (.answer i (.opened deviceSetRecord) nowMs) ↔
            Stale (knownRevision f.existing) deviceSetRecord ∨
              ∀ a ∈ d.accepted, a.1 = f.peer → a.2 ≤ deviceSetRecord.revision := by
          refine ⟨fun h => h f hf, fun h f' hf' => ?_⟩
          rw [hf] at hf'
          rw [← Option.some_inj.1 hf']
          exact h
        rw [horder]
        by_cases hstale : Stale (knownRevision f.existing) deviceSetRecord
        · rw [if_pos hstale]
          exact ⟨fun h => ⟨h, Or.inl hstale⟩, fun h => h.1⟩
        · rw [if_neg hstale, Rising, List.pairwise_cons]
          constructor
          · rintro ⟨hall, hrising⟩
            exact ⟨hrising, Or.inr fun a ha hpeer => hall a ha hpeer.symm⟩
          · rintro ⟨hrising, hstale' | hall⟩
            · exact absurd hstale' hstale
            · exact ⟨fun a ha hpeer => hall a ha hpeer.symm, hrising⟩

end Steps

/-- In every run, the revisions accepted for a peer never go back if and only if no fetch is
answered with a set that is not below the floor it began with and below what has been accepted
since. -/
theorem accepted_rising_iff (events : List PeerSetEvent) :
    Rising (peerSetRun events).accepted ↔
      Runs.Meets PeerSets.step InOrder PeerSets.fresh events := by
  have hiff := Runs.meets_iff (P := fun d => Rising d.accepted) PeerSets.step rising_step events
    PeerSets.fresh
  rw [peerSetRun, hiff]
  exact ⟨fun h => h.2, fun h => ⟨List.Pairwise.nil, h⟩⟩

/-- Revision 5 was accepted; a commit retry invalidates the entry, and the home answers with the
set of revision 3. -/
def rolledBackEvents : List PeerSetEvent :=
  [.resolveForPeer true "bob" false 0, .answer 0 (.opened ⟨5, [⟨"b1", "i1"⟩]⟩) 0,
    .invalidate "bob", .resolveForPeer true "bob" false 1,
    .answer 1 (.opened ⟨3, [⟨"b1", "i1"⟩, ⟨"b2", "i2"⟩]⟩) 1]

/-- So the removed device is a target again. -/
theorem rollback_accepted : ¬ ∀ events, Rising (peerSetRun events).accepted := by
  intro h
  have haccepted : (peerSetRun rolledBackEvents).accepted = [("bob", 3), ("bob", 5)] := by decide
  have hrising := h rolledBackEvents
  rw [haccepted] at hrising
  have hfirst : (5 : Int) ≤ 3 := (List.pairwise_cons.1 hrising).1 _ List.mem_cons_self rfl
  exact absurd hfirst (by decide)

end RezChat.Devices
