/-
The roster of an account's own devices (`services/ServerDeviceSetService.js`, `snapshotRoster`;
`storage/AccountDeviceRosterStore.js`; `services/ServerAccountStateSyncService.js`,
`siblingTargets`).

A roster is a list of devices with the authority epoch that it is taken for. It is used as long
as no later epoch is verified, so it must not be stamped with an epoch at or above one at which
a device in it was revoked.

The list and the epoch are read one after the other, the list first, so a revocation that
commits in between is in the stamp and not in the list (`revoked_inRoster`). The stamps of the
runs in which no device of a list is revoked by the time the epoch is read are right, whatever
else is interleaved, and so are the targets that are taken from the rosters
(`run_rosterSafe`). Whether a list was read so is recorded in `raced`, and what was targeted
in `targeted`; no step reads these.
-/
import RezChat.Inbox.Frame
import RezChat.Lib.Tasks

set_option autoImplicit false

namespace RezChat.Devices

open Inbox (trim)
open List Option RezChat.Task

/-! ## Rosters -/

/-- A row of the home's aggregate. -/
structure BundleRow where
  deviceId : String
  inboxId : String

structure RosterRow where
  deviceId : String
  inboxId : String
  deriving DecidableEq

structure RosterSnapshot where
  devices : List RosterRow
  epoch : Int
  snapshotAtMs : Int
  deriving DecidableEq

/-- The rows of a snapshot; a row without an id or an inbox is an error. -/
def rosterRows (seen : List String) : List BundleRow → Option (List RosterRow)
  | [] => some []
  | d :: devices =>
    if trim d.deviceId = "" ∨ trim d.inboxId = "" then none
    else if trim d.deviceId ∈ seen then rosterRows seen devices
    else (rosterRows (trim d.deviceId :: seen) devices).map fun rows =>
      ⟨trim d.deviceId, trim d.inboxId⟩ :: rows

/-- `#normalize`, of what `replaceSnapshot` has written. -/
def normalizeSnapshot : Option RosterSnapshot → Option RosterSnapshot
  | some snapshot => if snapshot.snapshotAtMs ≤ 0 then none else some snapshot
  | none => none

/-- The account: at its home, where mutations commit one by one, and on this device. -/
structure AccountRosters where
  epoch : Nat
  devices : List BundleRow
  revoked : List (String × Nat)
  stored : Option RosterSnapshot
  cached : Option RosterSnapshot
  hydrated : Bool
  raced : Bool
  targeted : List RosterSnapshot

namespace AccountRosters

def fresh : AccountRosters := ⟨0, [], [], none, none, false, false, []⟩

/-- What a crash leaves. -/
def restart (d : AccountRosters) : AccountRosters :=
  { d with
    cached := none
    hydrated := false }

/-! ### At the home -/

/-- A mutation that revokes nobody. -/
def mutate (devices : List BundleRow) (d : AccountRosters) : AccountRosters :=
  { d with
    epoch := d.epoch + 1
    devices := devices }

/-- The aggregate excludes a revoked device. -/
def revoke (deviceId : String) (d : AccountRosters) : AccountRosters :=
  { d with
    epoch := d.epoch + 1
    devices := d.devices.filter fun row => row.deviceId ≠ deviceId
    revoked := (deviceId, d.epoch + 1) :: d.revoked }

/-! ### On this device -/

/-- The epoch is read for a list: has a device of the list been revoked? -/
def markRace (devices : List BundleRow) (d : AccountRosters) : AccountRosters :=
  { d with raced := d.raced || devices.any fun row => d.revoked.any fun r => r.1 = trim row.deviceId }

def hydrateWith (stored : Option RosterSnapshot) (d : AccountRosters) : AccountRosters :=
  { d with
    cached := normalizeSnapshot stored
    hydrated := true }

def hold (cached : Option RosterSnapshot) (d : AccountRosters) : AccountRosters :=
  { d with cached := cached }

def write (snapshot : RosterSnapshot) (d : AccountRosters) : AccountRosters :=
  { d with stored := some snapshot }

def target (snapshot : RosterSnapshot) (d : AccountRosters) : AccountRosters :=
  { d with targeted := snapshot :: d.targeted }

end AccountRosters

/-! ## The roster store -/

/-- `#hydrate`. -/
def hydrateRoster : Task AccountRosters Unit :=
  act id fun d =>
    if d.hydrated = true then pause (done ())
    else do
      let stored ← await fun d => (d.stored, d)
      modify (AccountRosters.hydrateWith stored)
      pause (done ())

/-- The write at the end of `replaceSnapshot`: the copy in memory is first, and goes back to
what it was when the write fails. -/
def writeSnapshot (snapshot : RosterSnapshot) : Task AccountRosters Unit :=
  act (AccountRosters.hold (some snapshot)) fun d => wait fun
    | .ok => act (AccountRosters.write snapshot) fun _ => pause (done ())
    | .throws => pause
      (act (AccountRosters.hold d.cached) fun _ => failed)
    | .throwsLate => act (AccountRosters.write snapshot) fun _ => pause
      (act (AccountRosters.hold d.cached) fun _ => failed)

/-- `replaceFromAggregate`. -/
def replaceFromAggregate (devices : List BundleRow) (epoch : Int) (snapshotAtMs : Int) :
    Task AccountRosters Unit := do
  hydrateRoster
  match rosterRows [] devices with
  | none => failed
  | some rows => if epoch < 0 then failed else writeSnapshot ⟨rows, epoch, snapshotAtMs⟩

/-! ## The services -/

/-- What the home serves, and whether the account fans out. -/
structure HomeSurface where
  servesDevices : Bool
  servesEpoch : Bool
  multiDeviceFanout : Bool

/-- `#accountDeviceSetFromHome`. -/
def accountDeviceSetFromHome (home : HomeSurface) :
    Task AccountRosters (Option (List BundleRow)) :=
  if home.servesDevices = true then
    tryCatch (if home.multiDeviceFanout = true then failed else done none) do
      let devices ← await fun d => (d.devices, d)
      pure (if devices = [] then none else some devices)
  else done none

/-- The epoch for a list of devices, unless it cannot be read. -/
def authorityEpochFor (home : HomeSurface) (devices : List BundleRow) :
    Task AccountRosters (Option Int) :=
  if home.servesEpoch = true then wait fun
    | .ok => act (AccountRosters.markRace devices) fun d =>
      pause (done (some (d.epoch : Int)))
    | .throws | .throwsLate => pause (done none)
  else done (some 0)

/-- `snapshotRoster`. -/
def snapshotRoster (home : HomeSurface) (nowMs : Int) : Task AccountRosters Unit := do
  let devices ← accountDeviceSetFromHome home
  match devices with
  | none => pure ()
  | some devices => do
    let epoch ← authorityEpochFor home devices
    match epoch with
    | none => pure ()
    | some epoch => replaceFromAggregate devices epoch nowMs

/-- `siblingTargets`, of a device that does not fan out through its home: the roster, unless a
later epoch was verified. `authority` is the epoch that `ownAuthorityState` establishes. -/
def siblingTargets (ownDeviceId : String) (authority : Option Int) : Task AccountRosters Unit := do
  hydrateRoster
  let d ← get
  match d.cached with
  | none => pure ()
  | some roster => do
    await fun d => ((), d)
    match authority with
    | none => pure ()
    | some verifiedEpoch =>
      if verifiedEpoch > roster.epoch then pure ()
      else modify (AccountRosters.target
        { roster with
          devices := roster.devices.filter fun d => d.deviceId ≠ ownDeviceId
          epoch := verifiedEpoch })

/-! ## Runs -/

inductive RosterAct where
  | snapshotRoster (home : HomeSurface) (nowMs : Int)
  | siblingTargets (ownDeviceId : String) (authority : Option Int)
  | resume (i : Nat) (r : Response)
  | mutate (devices : List BundleRow)
  | revoke (deviceId : String)
  | crash

def RosterAct.toStep : RosterAct → Pool.Step AccountRosters
  | .snapshotRoster home nowMs => .start fun _ => Devices.snapshotRoster home nowMs
  | .siblingTargets ownDeviceId authority =>
    .start fun _ => Devices.siblingTargets ownDeviceId authority
  | .resume i r => .resume i r
  | .mutate devices => .elsewhere (AccountRosters.mutate devices)
  | .revoke deviceId => .elsewhere (AccountRosters.revoke deviceId)
  | .crash => .crash

/-- The account after a run. -/
def rosterRun (acts : List RosterAct) : AccountRosters :=
  (Runs.run (Pool.step AccountRosters.restart) (Pool.idle AccountRosters.fresh)
    (acts.map RosterAct.toStep)).state

/-! ## The law -/

/-- No device of the snapshot was revoked at or before its epoch. -/
def Truthful (d : AccountRosters) (s : RosterSnapshot) : Prop :=
  ∀ row ∈ s.devices, ∀ r ∈ d.revoked, r.1 = row.deviceId → s.epoch < r.2

/-- The stored roster is truthful, and so is every list of targets that was taken from one, at
the epoch that was verified for it. -/
structure RosterSafe (d : AccountRosters) : Prop where
  stored : ∀ s, d.stored = some s → Truthful d s
  targeted : ∀ s ∈ d.targeted, Truthful d s

namespace Roster

/-- A truthful snapshot that will stay so: its epoch has come. -/
def Kept (d : AccountRosters) (s : RosterSnapshot) : Prop := s.epoch ≤ d.epoch ∧ Truthful d s

/-- What always holds of the account. -/
structure Sound (d : AccountRosters) : Prop where
  positive : ∀ r ∈ d.revoked, 0 < r.2
  cached : d.raced = false → ∀ s, d.cached = some s → Kept d s
  stored : d.raced = false → ∀ s, d.stored = some s → Kept d s
  targeted : d.raced = false → ∀ s ∈ d.targeted, Kept d s

/-- What everybody may rely on: the epoch rises with every revocation. -/
structure Grows (d d' : AccountRosters) : Prop where
  epoch : d.epoch ≤ d'.epoch
  revoked : ∀ r ∈ d'.revoked, r ∈ d.revoked ∨ d.epoch < r.2
  raced : d'.raced = false → d.raced = false

theorem Grows.refl (d : AccountRosters) : Grows d d := ⟨le_refl _, fun _ h => .inl h, id⟩

theorem Grows.trans {d d' d'' : AccountRosters} (h : Grows d d') (h' : Grows d' d'') :
    Grows d d'' where
  epoch := h.epoch.trans h'.epoch
  revoked r hr := by
    rcases h'.revoked r hr with hold | hnew
    · exact h.revoked r hold
    · exact .inr (lt_of_le_of_lt h.epoch hnew)
  raced hr := h.raced (h'.raced hr)

theorem Kept.grows {d d' : AccountRosters} {s : RosterSnapshot} (h : Kept d s)
    (hgrows : Grows d d') : Kept d' s := by
  have hepoch : s.epoch ≤ d'.epoch := le_trans h.1 (by exact_mod_cast hgrows.epoch)
  refine ⟨hepoch, fun row hrow r hr hsame => ?_⟩
  rcases hgrows.revoked r hr with hold | hnew
  · exact h.2 row hrow r hold hsame
  · exact lt_of_le_of_lt h.1 (by exact_mod_cast hnew)

/-- The discipline of the calls. -/
def discipline : Discipline AccountRosters where
  inv := Sound
  rely _ := Grows
  refl _ := Grows.refl
  trans := Grows.trans

section Calls

variable {i : Nat} {d₀ d : AccountRosters} {α : Type}

abbrev Settled (i : Nat) : AccountRosters → AccountRosters → Prop := discipline.Settled i

abbrev SafeCall (i : Nat) (R : α → AccountRosters → Prop) (t : Task AccountRosters α)
    (d₀ d : AccountRosters) : Prop :=
  Safe discipline i (fun a d₀ d => Settled i d₀ d ∧ R a d) (Settled i) t d₀ d

theorem settled_refl (h : Sound d) : Settled i d d := Discipline.settled_refl h

variable {d' : AccountRosters}

/-- A step that leaves the home alone. -/
theorem settled_of_local (h : Settled i d₀ d)
    (hepoch : d'.epoch = d.epoch) (hrevoked : d'.revoked = d.revoked)
    (hraced : d'.raced = false → d.raced = false)
    (hcached : d'.raced = false → ∀ s, d'.cached = some s → Kept d s)
    (hstored : d'.raced = false → ∀ s, d'.stored = some s → Kept d s)
    (htargeted : d'.raced = false → ∀ s ∈ d'.targeted, Kept d s) : Settled i d₀ d' := by
  have hgrows : Grows d d' := by
    refine ⟨le_of_eq hepoch.symm, fun r hr => .inl ?_, hraced⟩
    rw [hrevoked] at hr
    exact hr
  refine ⟨⟨?_, fun hr s hs => ?_, fun hr s hs => ?_, fun hr s hs => ?_⟩,
    fun j hj => Grows.trans (h.2 j hj) hgrows⟩
  · rw [hrevoked]
    exact h.1.positive
  · exact (hcached hr s hs).grows hgrows
  · exact (hstored hr s hs).grows hgrows
  · exact (htargeted hr s hs).grows hgrows

/-- What a call holds: a snapshot that will stay truthful, unless a list was read in a race. -/
def Holds (s : RosterSnapshot) (d : AccountRosters) : Prop := d.raced = false → Kept d s

theorem Holds.grows {s : RosterSnapshot} (h : Holds s d)
    (hgrows : Grows d d') : Holds s d' := fun hr => (h (hgrows.raced hr)).grows hgrows

theorem normalizeSnapshot_eq {stored : Option RosterSnapshot} {s : RosterSnapshot}
    (h : normalizeSnapshot stored = some s) : stored = some s := by
  cases stored with
  | none => exact absurd h (by simp [normalizeSnapshot])
  | some snapshot =>
    have hif : (if snapshot.snapshotAtMs ≤ 0 then none else some snapshot) = some s := h
    by_cases hold : snapshot.snapshotAtMs ≤ 0
    · rw [if_pos hold] at hif
      exact absurd hif (by simp)
    · rw [if_neg hold] at hif
      exact hif

/-- A copy of what is stored may be held. -/
theorem settled_hydrateWith (h : Settled i d₀ d) {stored : Option RosterSnapshot}
    (hstored : ∀ s, stored = some s → Holds s d) :
    Settled i d₀ (d.hydrateWith stored) := by
  refine settled_of_local h rfl rfl id (fun hr s hs => ?_) h.1.stored h.1.targeted
  exact hstored s (normalizeSnapshot_eq hs) hr

theorem settled_hold (h : Settled i d₀ d) {cached : Option RosterSnapshot}
    (hcached : ∀ s, cached = some s → Holds s d) : Settled i d₀ (d.hold cached) :=
  settled_of_local h rfl rfl id (fun hr s hs => hcached s hs hr) h.1.stored h.1.targeted

variable {snapshot : RosterSnapshot}

theorem settled_write (h : Settled i d₀ d)
    (hsnapshot : Holds snapshot d) : Settled i d₀ (d.write snapshot) := by
  refine settled_of_local h rfl rfl id h.1.cached (fun hr s hs => ?_) h.1.targeted
  rw [← some_inj.1 hs]
  exact hsnapshot hr

theorem settled_target (h : Settled i d₀ d)
    (hsnapshot : Holds snapshot d) : Settled i d₀ (d.target snapshot) := by
  refine settled_of_local h rfl rfl id h.1.cached h.1.stored (fun hr s hs => ?_)
  rcases mem_cons.1 hs with heq | hold
  · rw [heq]
    exact hsnapshot hr
  · exact h.1.targeted hr s hold

/-! ### The roster store -/

/-- What a call holds while the store is hydrated it holds afterwards. -/
theorem safe_hydrateRoster {K : AccountRosters → Prop} (hK : ∀ d d', Grows d d' → K d → K d')
    (h : Settled i d₀ d) (hk : K d) : SafeCall i (fun _ => K) hydrateRoster d₀ d := by
  show Safe _ _ _ _ (if d.hydrated = true then _ else _) _ _
  by_cases hhydrated : d.hydrated = true
  · rw [if_pos hhydrated]
    exact ⟨h, fun d' hd' hgrows => ⟨settled_refl hd', hK d d' hgrows hk⟩⟩
  · rw [if_neg hhydrated]
    refine safe_bind (Task.safe_await h (fun d' hd' _ => settled_refl hd') ?_
      fun d' hd' => settled_refl hd')
    intro d₁ hd₁ hgrows₁ d₂ hd₂ hgrows₂
    -- what was read is held while others go on
    have hread (s : RosterSnapshot) (hs : d₁.stored = some s) : Holds s d₂ :=
      Holds.grows (fun hr => hd₁.stored hr s hs) hgrows₂
    have hset := settled_hydrateWith (settled_refl (i := i) hd₂) hread
    have hk₂ : K (d₂.hydrateWith d₁.stored) :=
      hK d₂ _ ⟨le_refl _, fun _ hr => .inl hr, id⟩ (hK d₁ d₂ hgrows₂ (hK d d₁ hgrows₁ hk))
    exact ⟨hset, fun d₃ hd₃ hgrows₃ => ⟨settled_refl hd₃, hK _ d₃ hgrows₃ hk₂⟩⟩

theorem safe_writeSnapshot (h : Settled i d₀ d)
    (hsnapshot : Holds snapshot d) :
    SafeCall i (fun _ _ => True) (writeSnapshot snapshot) d₀ d := by
  have hheld : Settled i d₀ (d.hold (some snapshot)) := settled_hold h fun s hs => by
    rw [← some_inj.1 hs]
    exact hsnapshot
  have hbefore (s : RosterSnapshot) (hs : d.cached = some s) : Holds s d :=
    fun hr => h.1.cached hr s hs
  refine ⟨hheld, fun response d₁ hd₁ hgrows => ?_⟩
  have hlocal : Grows d (d.hold (some snapshot)) := ⟨le_refl _, fun _ hr => .inl hr, id⟩
  have hgrows₁ : Grows d d₁ := hlocal.trans hgrows
  cases response with
  | ok =>
    have hset := settled_write (settled_refl (i := i) hd₁) (hsnapshot.grows hgrows₁)
    exact ⟨hset, fun d₂ hd₂ _ => ⟨settled_refl hd₂, trivial⟩⟩
  | throws =>
    refine ⟨settled_refl hd₁, fun d₂ hd₂ hgrows₂ => ?_⟩
    exact settled_hold (settled_refl hd₂) fun s hs =>
      (hbefore s hs).grows (hgrows₁.trans hgrows₂)
  | throwsLate =>
    have hset := settled_write (settled_refl (i := i) hd₁) (hsnapshot.grows hgrows₁)
    refine ⟨hset, fun d₂ hd₂ hgrows₂ => ?_⟩
    have hwritten : Grows d₁ (d₁.write snapshot) := ⟨le_refl _, fun _ hr => .inl hr, id⟩
    have hgrows₂' : Grows d₁ d₂ := hwritten.trans hgrows₂
    exact settled_hold (settled_refl hd₂) fun s hs =>
      (hbefore s hs).grows (hgrows₁.trans hgrows₂')

/-- Each row of a roster is for a device of the list. -/
theorem mem_rosterRows {row : RosterRow} : ∀ {devices : List BundleRow} {seen : List String}
    {rows : List RosterRow}, rosterRows seen devices = some rows → row ∈ rows →
      ∃ device ∈ devices, row.deviceId = trim device.deviceId
  | [], seen, rows, h, hrow => by
    rw [← some_inj.1 h] at hrow
    exact absurd hrow not_mem_nil
  | device :: devices, seen, rows, h, hrow => by
    rw [rosterRows] at h
    by_cases hblank : trim device.deviceId = "" ∨ trim device.inboxId = ""
    · rw [if_pos hblank] at h
      exact absurd h (by simp)
    · rw [if_neg hblank] at h
      by_cases hseen : trim device.deviceId ∈ seen
      · rw [if_pos hseen] at h
        obtain ⟨device', hmem, hid⟩ := mem_rosterRows h hrow
        exact ⟨device', mem_cons_of_mem _ hmem, hid⟩
      · rw [if_neg hseen, map_eq_some_iff] at h
        obtain ⟨rows', hrows', heq⟩ := h
        rw [← heq] at hrow
        rcases mem_cons.1 hrow with hfirst | hrest
        · exact ⟨device, mem_cons_self, by rw [hfirst]⟩
        · obtain ⟨device', hmem, hid⟩ := mem_rosterRows hrows' hrest
          exact ⟨device', mem_cons_of_mem _ hmem, hid⟩

/-- The epoch was read for the list when none of its devices was revoked. -/
def Stamped (devices : List BundleRow) (epoch : Int) (d : AccountRosters) : Prop :=
  d.raced = false → epoch ≤ d.epoch ∧
    ∀ device ∈ devices, ∀ r ∈ d.revoked, r.1 = trim device.deviceId → epoch < r.2

variable {devices : List BundleRow}

theorem Stamped.grows {epoch : Int}
    (h : Stamped devices epoch d) (hgrows : Grows d d') : Stamped devices epoch d' := by
  intro hr
  obtain ⟨hepoch, hdevices⟩ := h (hgrows.raced hr)
  refine ⟨le_trans hepoch (by exact_mod_cast hgrows.epoch), fun device hdevice r hr hsame => ?_⟩
  rcases hgrows.revoked r hr with hold | hnew
  · exact hdevices device hdevice r hold hsame
  · exact lt_of_le_of_lt hepoch (by exact_mod_cast hnew)

/-- The snapshot of a list that was stamped so. -/
theorem Stamped.holds {epoch : Int} {rows : List RosterRow}
    (h : Stamped devices epoch d) (hrows : rosterRows [] devices = some rows) (nowMs : Int) :
    Holds ⟨rows, epoch, nowMs⟩ d := by
  intro hr
  obtain ⟨hepoch, hdevices⟩ := h hr
  refine ⟨hepoch, fun row hrow r hrevoked hsame => ?_⟩
  obtain ⟨device, hdevice, hid⟩ := mem_rosterRows hrows hrow
  exact hdevices device hdevice r hrevoked (hsame.trans hid)

theorem safe_replaceFromAggregate {epoch nowMs : Int}
    (h : Settled i d₀ d) (hstamped : Stamped devices epoch d) :
    SafeCall i (fun _ _ => True) (replaceFromAggregate devices epoch nowMs) d₀ d := by
  -- the list and its stamp are held while the store is hydrated
  have hhydrated : SafeCall i (fun _ => Stamped devices epoch) hydrateRoster d₀ d :=
    safe_hydrateRoster (fun _ _ hgrows hk => hk.grows hgrows) h hstamped
  refine safe_bind (hhydrated.mono ?_ fun _ _ hE => hE)
  rintro _ d₁ d₂ ⟨hset, hstamped₂⟩
  cases hrows : rosterRows [] devices with
  | none => exact hset
  | some rows =>
    dsimp only
    by_cases hnegative : epoch < 0
    · rw [if_pos hnegative]
      exact hset
    · rw [if_neg hnegative]
      exact safe_writeSnapshot hset (hstamped₂.holds hrows nowMs)

/-! ### The services -/

variable {home : HomeSurface}

theorem safe_accountDeviceSetFromHome (h : Settled i d₀ d) :
    SafeCall i (fun _ _ => True) (accountDeviceSetFromHome home) d₀ d := by
  unfold accountDeviceSetFromHome
  by_cases hserves : home.servesDevices = true
  · rw [if_pos hserves]
    have hfallback (d₁ d₂ : AccountRosters) (hset : Settled i d₁ d₂) :
        SafeCall i (fun (_ : Option (List BundleRow)) _ => True)
          (if home.multiDeviceFanout = true then failed else done none) d₁ d₂ := by
      by_cases hfanout : home.multiDeviceFanout = true
      · rw [if_pos hfanout]
        exact hset
      · rw [if_neg hfanout]
        exact ⟨hset, trivial⟩
    refine safe_tryCatch (safe_bind (Task.safe_await h
      (fun d' hd' _ => settled_refl hd') ?_ fun d' hd' => ?_))
    · exact fun _ _ _ d₂ hd₂ _ => safe_pure ⟨settled_refl hd₂, trivial⟩
    · exact hfallback d' d' (settled_refl hd')
  · rw [if_neg hserves]
    exact ⟨h, trivial⟩

/-- The epoch is read: unless that is marked as a race, no device of the list is revoked. -/
theorem settled_markRace (h : Settled i d₀ d) (devices : List BundleRow) :
    Settled i d₀ (d.markRace devices) ∧ Stamped devices d.epoch (d.markRace devices) := by
  have hquiet (hr : (d.markRace devices).raced = false) : d.raced = false ∧
      (devices.any fun row => d.revoked.any fun r => r.1 = trim row.deviceId) = false :=
    Bool.or_eq_false_iff.1 hr
  constructor
  · exact settled_of_local h rfl rfl (fun hr => (hquiet hr).1)
      (fun hr => h.1.cached (hquiet hr).1) (fun hr => h.1.stored (hquiet hr).1)
      (fun hr => h.1.targeted (hquiet hr).1)
  · refine fun hr => ⟨le_refl _, fun device hdevice r hrevoked hsame => ?_⟩
    have hnone := any_eq_false.1 (hquiet hr).2 device hdevice
    exact absurd (any_eq_true.2 ⟨r, hrevoked, decide_eq_true hsame⟩) hnone

theorem safe_authorityEpochFor
    (h : Settled i d₀ d) :
    SafeCall i (fun epoch d' => ∀ e, epoch = some e → Stamped devices e d')
      (authorityEpochFor home devices) d₀ d := by
  unfold authorityEpochFor
  by_cases hserves : home.servesEpoch = true
  · rw [if_pos hserves]
    refine ⟨h, fun response d₁ hd₁ _ => ?_⟩
    have hfailed (d₂ : AccountRosters) (hd₂ : Sound d₂) : Settled i d₂ d₂ ∧
        ∀ e, (none : Option Int) = some e → Stamped devices e d₂ :=
      ⟨settled_refl hd₂, fun e he => absurd he (by simp)⟩
    cases response with
    | ok =>
      obtain ⟨hset, hstamped⟩ := settled_markRace (settled_refl (i := i) hd₁) devices
      refine ⟨hset, fun d₂ hd₂ hgrows => ⟨settled_refl hd₂, fun e he => ?_⟩⟩
      rw [← some_inj.1 he]
      exact hstamped.grows hgrows
    | throws => exact ⟨settled_refl hd₁, fun d₂ hd₂ _ => hfailed d₂ hd₂⟩
    | throwsLate => exact ⟨settled_refl hd₁, fun d₂ hd₂ _ => hfailed d₂ hd₂⟩
  · rw [if_neg hserves]
    refine ⟨h, fun e he => ?_⟩
    -- a home that serves no epoch: every revocation is later than 0
    have hzero : (0 : Int) = e := some_inj.1 he
    rw [← hzero]
    exact fun _ => ⟨Int.natCast_nonneg _, fun _ _ r hr _ => by exact_mod_cast h.1.positive r hr⟩

theorem safe_snapshotRoster {nowMs : Int} (h : Settled i d₀ d) :
    SafeCall i (fun _ _ => True) (snapshotRoster home nowMs) d₀ d := by
  refine safe_bind ((safe_accountDeviceSetFromHome h).mono ?_ fun _ _ hE => hE)
  rintro devices d₁ d₂ ⟨hset, -⟩
  cases devices with
  | none => exact safe_pure ⟨hset, trivial⟩
  | some devices =>
    have hepoch : SafeCall i (fun epoch d' => ∀ e, epoch = some e → Stamped devices e d')
        (authorityEpochFor home devices) d₁ d₂ := safe_authorityEpochFor hset
    refine safe_bind (hepoch.mono ?_ fun _ _ hE => hE)
    rintro epoch d₃ d₄ ⟨hset', hstamped⟩
    cases epoch with
    | none => exact safe_pure ⟨hset', trivial⟩
    | some epoch => exact safe_replaceFromAggregate hset' (hstamped epoch rfl)

/-- The targets of a roster, at an epoch that is not above its own. -/
theorem Holds.targets {roster : RosterSnapshot} {verifiedEpoch : Int} {p : RosterRow → Bool}
    (h : Holds roster d) (hverified : ¬ verifiedEpoch > roster.epoch) :
    Holds { roster with
      devices := roster.devices.filter p
      epoch := verifiedEpoch } d := by
  intro hr
  obtain ⟨hepoch, htruthful⟩ := h hr
  have hle : verifiedEpoch ≤ roster.epoch := not_lt.1 hverified
  refine ⟨le_trans hle hepoch, fun row hrow r hrevoked hsame => ?_⟩
  exact lt_of_le_of_lt hle (htruthful row (mem_filter.1 hrow).1 r hrevoked hsame)

theorem safe_siblingTargets {ownDeviceId : String} {authority : Option Int}
    (h : Settled i d₀ d) :
    SafeCall i (fun _ _ => True) (siblingTargets ownDeviceId authority) d₀ d := by
  have hhydrated : SafeCall i (fun _ _ => True) hydrateRoster d₀ d :=
    safe_hydrateRoster (fun _ _ _ hk => hk) h trivial
  refine safe_bind (hhydrated.mono ?_ fun _ _ hE => hE)
  rintro _ d₁ d₂ ⟨hset, -⟩
  show Safe _ _ _ _ (match d₂.cached with
    | none => pure ()
    | some roster => _) _ _
  cases hcached : d₂.cached with
  | none => exact safe_pure ⟨hset, trivial⟩
  | some roster =>
    have hroster : Holds roster d₂ := fun hr => hset.1.cached hr roster hcached
    refine safe_bind (Task.safe_await hset (fun d' hd' _ => settled_refl hd') ?_
      fun d' hd' => settled_refl hd')
    intro d₃ hd₃ hgrows₃ d₄ hd₄ hgrows₄
    have hroster₄ : Holds roster d₄ := (hroster.grows hgrows₃).grows hgrows₄
    cases authority with
    | none => exact safe_pure ⟨settled_refl hd₄, trivial⟩
    | some verifiedEpoch =>
      dsimp only
      by_cases hlater : verifiedEpoch > roster.epoch
      · rw [if_pos hlater]
        exact safe_pure ⟨settled_refl hd₄, trivial⟩
      · rw [if_neg hlater]
        exact ⟨settled_target (settled_refl hd₄) (hroster₄.targets hlater), trivial⟩

end Calls

/-! ### Runs -/

theorem grows_mutate (devices : List BundleRow) (d : AccountRosters) :
    Grows d (d.mutate devices) := ⟨Nat.le_succ _, fun _ hr => .inl hr, id⟩

theorem grows_revoke (deviceId : String) (d : AccountRosters) :
    Grows d (d.revoke deviceId) := by
  refine ⟨Nat.le_succ _, fun r hr => ?_, id⟩
  rcases mem_cons.1 hr with heq | hold
  · rw [heq]
    exact .inr (Nat.lt_succ_self _)
  · exact .inl hold

/-- The home goes on, and nothing changes on this device. -/
theorem Sound.elsewhere {d d' : AccountRosters} (h : Sound d) (hgrows : Grows d d')
    (hcached : d'.cached = d.cached) (hstored : d'.stored = d.stored)
    (htargeted : d'.targeted = d.targeted) : Sound d' where
  positive r hr := by
    rcases hgrows.revoked r hr with hold | hnew
    · exact h.positive r hold
    · exact lt_of_le_of_lt (Nat.zero_le _) hnew
  cached hr s hs := by
    rw [hcached] at hs
    exact (h.cached (hgrows.raced hr) s hs).grows hgrows
  stored hr s hs := by
    rw [hstored] at hs
    exact (h.stored (hgrows.raced hr) s hs).grows hgrows
  targeted hr s hs := by
    rw [htargeted] at hs
    exact (h.targeted (hgrows.raced hr) s hs).grows hgrows

theorem allowed_act (a : RosterAct) : a.toStep.Allowed discipline := by
  cases a with
  | snapshotRoster home nowMs =>
    exact fun i d h => (safe_snapshotRoster (settled_refl h)).mono (fun _ _ _ hR => hR.1)
      fun _ _ hE => hE
  | siblingTargets ownDeviceId authority =>
    exact fun i d h => (safe_siblingTargets (settled_refl h)).mono (fun _ _ _ hR => hR.1)
      fun _ _ hE => hE
  | resume i r => trivial
  | mutate devices =>
    exact fun d h => ⟨h.elsewhere (grows_mutate devices d) rfl rfl rfl,
      fun _ => grows_mutate devices d⟩
  | revoke deviceId =>
    exact fun d h => ⟨h.elsewhere (grows_revoke deviceId d) rfl rfl rfl,
      fun _ => grows_revoke deviceId d⟩
  | crash => trivial

theorem sound_fresh : Sound AccountRosters.fresh where
  positive _ hr := absurd hr not_mem_nil
  cached _ _ hs := absurd hs (by simp [AccountRosters.fresh])
  stored _ _ hs := absurd hs (by simp [AccountRosters.fresh])
  targeted _ _ hs := absurd hs not_mem_nil

theorem sound_restart {d : AccountRosters} (h : Sound d) : Sound d.restart where
  positive := h.positive
  cached _ _ hs := absurd hs (by simp [AccountRosters.restart])
  stored := h.stored
  targeted := h.targeted

theorem sound_run (acts : List RosterAct) : Sound (rosterRun acts) :=
  Pool.run_inv (fun _ h => sound_restart h) sound_fresh (acts.map RosterAct.toStep) fun a ha => by
    obtain ⟨act, -, rfl⟩ := mem_map.1 ha
    exact allowed_act act

end Roster

/-- In every run in which no device of a list has been revoked when the epoch for the list is
read, the stored roster names no device that was revoked at its epoch or before, and no list of
targets that was taken from a roster names one that was revoked at the verified epoch or
before. -/
theorem run_rosterSafe (acts : List RosterAct) (hquiet : (rosterRun acts).raced = false) :
    RosterSafe (rosterRun acts) where
  stored s hs := ((Roster.sound_run acts).stored hquiet s hs).2
  targeted s hs := ((Roster.sound_run acts).targeted hquiet s hs).2

/-- A home that serves everything. -/
def fullHome : HomeSurface := ⟨true, true, true⟩

def phoneAndLaptop : List BundleRow := [⟨"phone", "i1"⟩, ⟨"laptop", "i2"⟩]

theorem run_rosterSafe_phone : RosterSafe (rosterRun
    [.mutate phoneAndLaptop, .revoke "phone", .snapshotRoster fullHome 1, .resume 0 .ok,
      .resume 0 .ok, .resume 0 .ok, .resume 0 .ok, .resume 0 .ok, .resume 0 .ok, .resume 0 .ok,
      .resume 0 .ok]) :=
  run_rosterSafe _ (by decide)

/-- The phone is revoked between the two reads: the roster of epoch 2 names it, and it was
revoked at epoch 2. -/
theorem revoked_inRoster : ¬ ∀ acts, RosterSafe (rosterRun acts) := by
  intro h
  have hrun := h [.mutate phoneAndLaptop, .snapshotRoster fullHome 1, .resume 0 .ok,
    .revoke "phone", .resume 0 .ok, .resume 0 .ok, .resume 0 .ok, .resume 0 .ok, .resume 0 .ok,
    .resume 0 .ok, .resume 0 .ok]
  have hlt : (2 : Int) < (2 : Nat) :=
    hrun.stored ⟨[⟨"phone", "i1"⟩, ⟨"laptop", "i2"⟩], 2, 1⟩ (by decide) ⟨"phone", "i1"⟩
      mem_cons_self ("phone", 2) (by decide) rfl
  exact absurd hlt (by decide)

end RezChat.Devices
