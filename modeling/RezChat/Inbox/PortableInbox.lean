/-
The portable inbox of a device (`inbox/PortableInboxEstablisher.js`), the two split-transport roles of
`InboxClaimant.js`, and the publication of the device bundle (`publishOwnDeviceBundle` of
`services/ServerDeviceSetService.js`).

A device has one portable inbox. `ensureEstablished` mints its claim, stores it, writes the pointer
that names it, and leases the inbox at the provider, each behind an await; the bundle that tells the
peers of the inbox is published after that. A crash ends what is under way and leaves the storage
and what the provider and the home were told.

The calls on one establisher share one run (`#ensuring`). Each `activateDelegatedDevice` makes an
establisher of its own over the same storage, and nothing keeps two of them from finding no pointer
at the same time: both mint, the pointer is written twice, and the inbox that was leased first is not
the one it names. Where a run mints only while no other does, the pointer is written once, and every
inbox that is leased or published is the one it names (`run_established`); with one establisher for
each life of the process that is so (`run_mintsAlone`).

The claim store is atomic here. That an inbox which `createClaim` draws is not the bootstrap inbox is
a condition on the runs.
-/
import RezChat.Lib.Runs
import RezChat.Lib.Table
import RezChat.Lib.Tasks

set_option autoImplicit false

namespace RezChat.Inbox.Portable

open List Option Table Runs

/-! ## Runs of the establisher -/

/-- What a run of `#ensure` waits for. -/
inductive RunPhase where
  /-- The claims, and the pointer. -/
  | reading
  | creating
  | persisting (inboxId : String)
  | pointing (inboxId : String)
  /-- The client for the provider. -/
  | opening (inboxId : String)
  /-- Its connection, and the attestation and the delegation of the claim. -/
  | connecting (inboxId : String)
  | claiming (inboxId : String)
  | recording (inboxId : String)
  | closing (inboxId : String) (leased : Bool)
  | done (inboxId : String)
  | failed
  deriving DecidableEq

namespace RunPhase

def settled : RunPhase → Bool
  | .done _ => true
  | .failed => true
  | _ => false

/-- The run has found no pointer, and has not written it yet. -/
def mints : RunPhase → Bool
  | .creating => true
  | .persisting _ => true
  | .pointing _ => true
  | _ => false

end RunPhase

/-- What a call of `publishOwnDeviceBundle` waits for: a run of the establisher, the bundle, and the
home. -/
inductive Publication where
  | ensuring (run : Nat)
  | building (inboxId : String)
  | publishing (inboxId : String)
  | published
  | failed

/-- The storage of the device, what is under way in this life of the process, and what the provider
accepted and the home published. `pointerWrites` are the inboxes that were ever written to the
pointer, and `booted` those that a steady-state boot took for its own. -/
structure World where
  claims : List String
  leases : List (String × Int)
  pointer : Option String
  establishers : List (Option Nat)
  runs : List RunPhase
  publications : List Publication
  accepted : List String
  published : List String
  pointerWrites : List String
  booted : List String

/-- What becomes of what a run waits for: the time then, the inbox that `createClaim` draws, and the
end of the lease that the delegation is for. -/
structure Turn where
  response : Response
  nowMs : Int
  drawn : String
  expiresAtMs : Int
  deriving DecidableEq

namespace World

def start : World := ⟨[], [], none, [], [], [], [], [], [], []⟩

def setRun (w : World) (r : Nat) (phase : RunPhase) : World := { w with runs := w.runs.set r phase }

/-- `leaseState`, the end of the lease that was recorded last. -/
def leaseState (w : World) (inboxId : String) : Option Int :=
  (w.leases.find? fun lease => decide (lease.1 = inboxId)).map Prod.snd

/-- An accepted lease is on record, and has not expired. -/
def leaseCurrent (w : World) (inboxId : String) (nowMs : Int) : Bool :=
  (w.leaseState inboxId).any fun expiresAtMs => decide (nowMs < expiresAtMs)

/-- `ensureEstablished`: the run that is under way, or a new one. -/
def ensureEstablished (w : World) (e : Nat) : World :=
  match w.establishers[e]? with
  | some none =>
    { w with
      establishers := w.establishers.set e (some w.runs.length)
      runs := w.runs ++ [.reading] }
  | _ => w

/-- `publishOwnDeviceBundle`, up to its first await. -/
def publishOwnDeviceBundle (w : World) (e : Nat) : World :=
  let ensured := w.ensureEstablished e
  match ensured.establishers[e]? with
  | some (some r) => { ensured with publications := ensured.publications ++ [.ensuring r] }
  | _ => ensured

/-- The claim and the pointer are there: what follows in `#ensure`. -/
def lease (w : World) (bootstrapInboxId : String) (r : Nat) (inboxId : String) (nowMs : Int) :
    World :=
  if inboxId = bootstrapInboxId then w.setRun r .failed
  else if w.leaseCurrent inboxId nowMs then w.setRun r (.done inboxId)
  else w.setRun r (.opening inboxId)

/-- The claims and the pointer were read. -/
def pointerRead (w : World) (bootstrapInboxId : String) (r : Nat) (nowMs : Int) : World :=
  match w.pointer with
  | some inboxId =>
    if inboxId ∈ w.claims then w.lease bootstrapInboxId r inboxId nowMs else w.setRun r .failed
  | none => w.setRun r .creating

def addClaim (w : World) (inboxId : String) : World := { w with claims := w.claims ++ [inboxId] }

def writePointer (w : World) (inboxId : String) : World :=
  { w with pointer := some inboxId, pointerWrites := w.pointerWrites ++ [inboxId] }

def accept (w : World) (inboxId : String) : World := { w with accepted := w.accepted ++ [inboxId] }

def recordLease (w : World) (inboxId : String) (expiresAtMs : Int) : World :=
  { w with leases := (inboxId, expiresAtMs) :: w.leases }

/-- A run goes on. -/
def runTurn (w : World) (bootstrapInboxId : String) (r : Nat) (t : Turn) : World :=
  match w.runs[r]?, t.response with
  | some .reading, .ok => w.pointerRead bootstrapInboxId r t.nowMs
  | some .reading, _ => w.setRun r .failed
  | some .creating, .ok => w.setRun r (.persisting t.drawn)
  | some .creating, _ => w.setRun r .failed
  | some (.persisting inboxId), .ok => (w.addClaim inboxId).setRun r (.pointing inboxId)
  | some (.persisting _), .throws => w.setRun r .failed
  | some (.persisting inboxId), .throwsLate => (w.addClaim inboxId).setRun r .failed
  | some (.pointing inboxId), .ok => (w.writePointer inboxId).lease bootstrapInboxId r inboxId t.nowMs
  | some (.pointing _), .throws => w.setRun r .failed
  | some (.pointing inboxId), .throwsLate => (w.writePointer inboxId).setRun r .failed
  | some (.opening inboxId), .ok => w.setRun r (.connecting inboxId)
  | some (.opening _), _ => w.setRun r .failed
  | some (.connecting inboxId), .ok => w.setRun r (.claiming inboxId)
  | some (.connecting inboxId), _ => w.setRun r (.closing inboxId false)
  | some (.claiming inboxId), .ok => (w.accept inboxId).setRun r (.recording inboxId)
  | some (.claiming inboxId), .throws => w.setRun r (.closing inboxId false)
  | some (.claiming inboxId), .throwsLate => (w.accept inboxId).setRun r (.closing inboxId false)
  | some (.recording inboxId), .throws => w.setRun r (.closing inboxId true)
  | some (.recording inboxId), _ =>
    (w.recordLease inboxId t.expiresAtMs).setRun r (.closing inboxId true)
  | some (.closing inboxId leased), _ => w.setRun r (if leased then .done inboxId else .failed)
  | some (.done _), _ => w
  | some .failed, _ => w
  | none, _ => w

/-- The `finally` of `ensureEstablished`, once the run is settled. -/
def forgetRun (w : World) (e : Nat) : World :=
  match w.establishers[e]? with
  | some (some r) =>
    if (w.runs[r]?).any RunPhase.settled then
      { w with establishers := w.establishers.set e none }
    else w
  | _ => w

def setPublication (w : World) (k : Nat) (phase : Publication) : World :=
  { w with publications := w.publications.set k phase }

def publish (w : World) (inboxId : String) : World :=
  { w with published := w.published ++ [inboxId] }

/-- A publication goes on. -/
def publicationTurn (w : World) (k : Nat) (response : Response) : World :=
  match w.publications[k]?, response with
  | some (.ensuring r), _ =>
    match w.runs[r]? with
    | some (.done inboxId) => w.setPublication k (.building inboxId)
    | some .failed => w.setPublication k .failed
    | _ => w
  | some (.building inboxId), .ok => w.setPublication k (.publishing inboxId)
  | some (.building _), _ => w.setPublication k .failed
  | some (.publishing inboxId), .ok => (w.publish inboxId).setPublication k .published
  | some (.publishing _), .throws => w.setPublication k .failed
  | some (.publishing inboxId), .throwsLate => (w.publish inboxId).setPublication k .failed
  | some .published, _ => w
  | some .failed, _ => w
  | none, _ => w

/-- `InboxClaimant.bootstrap` in the enrollment role, over the atomic store. -/
def bootEnrollment (w : World) (bootstrapInboxId : String) : World :=
  if bootstrapInboxId ∈ w.claims then w else w.addClaim bootstrapInboxId

/-- `InboxClaimant.bootstrap` in the portable role: the inbox of the pointer, or an error. -/
def bootPortable (w : World) (bootstrapInboxId : String) : World :=
  match w.pointer with
  | some inboxId =>
    if inboxId ∈ w.claims ∧ inboxId ≠ bootstrapInboxId then
      { w with booted := w.booted ++ [inboxId] }
    else w
  | none => w

/-- The process ends. -/
def crash (w : World) : World := { w with establishers := [], runs := [], publications := [] }

end World

/-! ## Runs -/

inductive Event where
  /-- `activateDelegatedDevice` makes an establisher. -/
  | newEstablisher
  | ensureEstablished (e : Nat)
  | publishOwnDeviceBundle (e : Nat)
  | runTurn (r : Nat) (turn : Turn)
  | forgetRun (e : Nat)
  | publicationTurn (k : Nat) (response : Response)
  | bootEnrollment
  | bootPortable
  | crash
  deriving DecidableEq

namespace World

def step (bootstrapInboxId : String) (w : World) : Event → World
  | .newEstablisher => { w with establishers := w.establishers ++ [none] }
  | .ensureEstablished e => w.ensureEstablished e
  | .publishOwnDeviceBundle e => w.publishOwnDeviceBundle e
  | .runTurn r turn => w.runTurn bootstrapInboxId r turn
  | .forgetRun e => w.forgetRun e
  | .publicationTurn k response => w.publicationTurn k response
  | .bootEnrollment => w.bootEnrollment bootstrapInboxId
  | .bootPortable => w.bootPortable bootstrapInboxId
  | .crash => w.crash

def after (bootstrapInboxId : String) (es : List Event) : World :=
  run (step bootstrapInboxId) start es

/-- The pointer was written once at most; it names a claim that is stored, and not the bootstrap
inbox; and what is leased, published or booted from is the inbox that it names, published only if it
is leased. -/
structure Established (bootstrapInboxId : String) (w : World) : Prop where
  pointer : w.pointerWrites = w.pointer.toList
  claimed : ∀ p ∈ w.pointer, p ∈ w.claims ∧ p ≠ bootstrapInboxId
  accepted : ∀ inboxId ∈ w.accepted, w.pointer = some inboxId
  published : ∀ inboxId ∈ w.published, w.pointer = some inboxId ∧ inboxId ∈ w.accepted
  booted : ∀ inboxId ∈ w.booted, w.pointer = some inboxId

/-- No run mints. -/
def noneMints (w : World) : Bool := w.runs.all fun phase => !phase.mints

/-- A run that finds no pointer comes to mint only while no other does; and what `createClaim` draws
is not the bootstrap inbox. -/
def MintsAlone (bootstrapInboxId : String) (w : World) : Event → Prop
  | .runTurn r turn => turn.response = .ok →
      (w.runs[r]? = some .reading → w.pointer = none → w.noneMints = true) ∧
      (w.runs[r]? = some .creating → turn.drawn ≠ bootstrapInboxId)
  | _ => True

instance (bootstrapInboxId : String) (w : World) : ∀ e, Decidable (w.MintsAlone bootstrapInboxId e)
  | .runTurn r turn => inferInstanceAs (Decidable (turn.response = .ok →
      (w.runs[r]? = some .reading → w.pointer = none → w.noneMints = true) ∧
      (w.runs[r]? = some .creating → turn.drawn ≠ bootstrapInboxId)))
  | .newEstablisher => isTrue trivial
  | .ensureEstablished _ => isTrue trivial
  | .publishOwnDeviceBundle _ => isTrue trivial
  | .forgetRun _ => isTrue trivial
  | .publicationTurn _ _ => isTrue trivial
  | .bootEnrollment => isTrue trivial
  | .bootPortable => isTrue trivial
  | .crash => isTrue trivial

/-! ## What is kept -/

variable {bootstrapInboxId : String} {w w' : World} {r : Nat} {old phase : RunPhase}
  {inboxId : String}

/-- Claims and acceptances stay, and so does the pointer once it is set. -/
structure Grows (w w' : World) : Prop where
  claims : ∀ inboxId ∈ w.claims, inboxId ∈ w'.claims
  accepted : ∀ inboxId ∈ w.accepted, inboxId ∈ w'.accepted
  pointer : ∀ inboxId, w.pointer = some inboxId → w'.pointer = some inboxId

theorem grows_of_eq (hclaims : w'.claims = w.claims) (haccepted : w'.accepted = w.accepted)
    (hpointer : w'.pointer = w.pointer) : Grows w w' where
  claims inboxId h := by rwa [hclaims]
  accepted inboxId h := by rwa [haccepted]
  pointer inboxId h := by rwa [hpointer]

/-- What a run has come to know of its inbox. -/
def RunOk (bootstrapInboxId : String) (w : World) : RunPhase → Prop
  | .persisting inboxId => inboxId ≠ bootstrapInboxId
  | .pointing inboxId => inboxId ≠ bootstrapInboxId ∧ inboxId ∈ w.claims
  | .opening inboxId => w.pointer = some inboxId
  | .connecting inboxId => w.pointer = some inboxId
  | .claiming inboxId => w.pointer = some inboxId
  | .recording inboxId => w.pointer = some inboxId ∧ inboxId ∈ w.accepted
  | .closing inboxId leased => w.pointer = some inboxId ∧ (leased = true → inboxId ∈ w.accepted)
  | .done inboxId => w.pointer = some inboxId ∧ inboxId ∈ w.accepted
  | .reading => True
  | .creating => True
  | .failed => True

theorem RunOk.mono (hgrows : Grows w w') (h : RunOk bootstrapInboxId w phase) :
    RunOk bootstrapInboxId w' phase := by
  cases phase with
  | persisting inboxId => exact h
  | pointing inboxId => exact ⟨h.1, hgrows.claims _ h.2⟩
  | opening inboxId => exact hgrows.pointer _ h
  | connecting inboxId => exact hgrows.pointer _ h
  | claiming inboxId => exact hgrows.pointer _ h
  | recording inboxId => exact ⟨hgrows.pointer _ h.1, hgrows.accepted _ h.2⟩
  | closing inboxId leased =>
    exact ⟨hgrows.pointer _ h.1, fun hleased => hgrows.accepted _ (h.2 hleased)⟩
  | done inboxId => exact ⟨hgrows.pointer _ h.1, hgrows.accepted _ h.2⟩
  | reading => trivial
  | creating => trivial
  | failed => trivial

/-- A bundle is made of an inbox that is leased. -/
def PublicationOk (w : World) : Publication → Prop
  | .building inboxId => w.pointer = some inboxId ∧ inboxId ∈ w.accepted
  | .publishing inboxId => w.pointer = some inboxId ∧ inboxId ∈ w.accepted
  | .ensuring _ => True
  | .published => True
  | .failed => True

theorem PublicationOk.mono (hgrows : Grows w w') {publication : Publication}
    (h : PublicationOk w publication) : PublicationOk w' publication := by
  cases publication with
  | building inboxId => exact ⟨hgrows.pointer _ h.1, hgrows.accepted _ h.2⟩
  | publishing inboxId => exact ⟨hgrows.pointer _ h.1, hgrows.accepted _ h.2⟩
  | ensuring run => trivial
  | published => trivial
  | failed => trivial

structure Inv (bootstrapInboxId : String) (w : World) : Prop where
  established : Established bootstrapInboxId w
  runs : ∀ phase ∈ w.runs, RunOk bootstrapInboxId w phase
  publications : ∀ publication ∈ w.publications, PublicationOk w publication
  leases : ∀ lease ∈ w.leases, lease.1 ∈ w.accepted
  alone : ∀ (r r' : Nat) (phase phase' : RunPhase), w.runs[r]? = some phase →
    w.runs[r']? = some phase' → phase.mints = true → phase'.mints = true → r = r'
  unset : ∀ phase ∈ w.runs, phase.mints = true → w.pointer = none

theorem inv_start (bootstrapInboxId : String) : Inv bootstrapInboxId start where
  established := ⟨rfl, fun _ h => (nomatch h), fun _ h => (nomatch h), fun _ h => (nomatch h),
    fun _ h => (nomatch h)⟩
  runs _ h := nomatch h
  publications _ h := nomatch h
  leases _ h := nomatch h
  alone _ _ _ _ h := nomatch h
  unset _ h := nomatch h

theorem mints_of_noneMints (h : w.noneMints = true) (hr : w.runs[r]? = some phase) :
    phase.mints = false := by
  rw [noneMints, List.all_eq_true] at h
  have hphase := h phase (mem_of_getElem? hr)
  rwa [Bool.not_eq_true'] at hphase

section

variable (h : Inv bootstrapInboxId w)
include h

/-- A run goes on, in a world that has only grown. A run mints only if it did before or no other
does, and the pointer is not set then. -/
theorem Inv.next (hgrows : Grows w w')
    (hestablished : Established bootstrapInboxId w') (hruns : w'.runs = w.runs)
    (hpublications : w'.publications = w.publications)
    (hleases : ∀ lease ∈ w'.leases, lease.1 ∈ w'.accepted) (hr : w.runs[r]? = some old)
    (hphase : RunOk bootstrapInboxId w' phase)
    (hmints : phase.mints = true → w'.pointer = none ∧ (old.mints = true ∨ w.noneMints = true))
    (hunset : w'.pointer = w.pointer ∨ old.mints = true) :
    Inv bootstrapInboxId (w'.setRun r phase) := by
  have hset : (w'.setRun r phase).runs = w.runs.set r phase := by rw [setRun, hruns]
  -- beside the run that mints now there is none
  have hother : ∀ (j : Nat) (p : RunPhase), j ≠ r → w.runs[j]? = some p → phase.mints = true →
      p.mints = false := by
    intro j p hjr hj hmint
    rcases (hmints hmint).2 with hold | hnone
    · by_contra hp
      exact hjr (h.alone j r p old hj hr (Bool.not_eq_false _ |>.mp hp) hold)
    · exact mints_of_noneMints hnone hj
  refine ⟨⟨hestablished.pointer, hestablished.claimed, hestablished.accepted,
    hestablished.published, hestablished.booted⟩, fun p hp => ?_, fun p hp => ?_, hleases,
    fun j j' p p' hj hj' hp hp' => ?_, fun p hp hmint => ?_⟩
  · rw [hset] at hp
    rcases mem_set hp with hold | hnew
    · exact (h.runs p hold).mono ⟨hgrows.claims, hgrows.accepted, hgrows.pointer⟩
    · rw [hnew]
      exact hphase.mono (grows_of_eq rfl rfl rfl)
  · have hp' : p ∈ w.publications := hpublications ▸ hp
    exact (h.publications p hp').mono ⟨hgrows.claims, hgrows.accepted, hgrows.pointer⟩
  · rw [hset] at hj hj'
    rcases getElem_set hj with ⟨hjr, hnew⟩ | ⟨hjr, hold⟩
    · rcases getElem_set hj' with ⟨hjr', _⟩ | ⟨hjr', hold'⟩
      · exact hjr.trans hjr'.symm
      · have hnot := hother j' p' hjr' hold' (hnew ▸ hp)
        rw [hp'] at hnot
        cases hnot
    · rcases getElem_set hj' with ⟨_, hnew'⟩ | ⟨_, hold'⟩
      · have hnot := hother j p hjr hold (hnew' ▸ hp')
        rw [hp] at hnot
        cases hnot
      · exact h.alone j j' p p' hold hold' hp hp'
  · rw [hset] at hp
    obtain ⟨j, hj⟩ := mem_iff_getElem?.1 hp
    rcases getElem_set hj with ⟨_, hnew⟩ | ⟨hjr, hold⟩
    · exact (hmints (hnew ▸ hmint)).1
    · rcases hunset with hsame | hminted
      · exact hsame.trans (h.unset p (mem_of_getElem? hold) hmint)
      · exact absurd (h.alone j r p old hold hr hmint hminted) hjr

/-- A run goes on, and nothing else happens. -/
theorem Inv.setRun (hr : w.runs[r]? = some old)
    (hphase : RunOk bootstrapInboxId w phase)
    (hmints : phase.mints = true → w.pointer = none ∧ (old.mints = true ∨ w.noneMints = true)) :
    Inv bootstrapInboxId (w.setRun r phase) :=
  h.next (grows_of_eq rfl rfl rfl) h.established rfl rfl h.leases hr hphase hmints (.inl rfl)

/-- An expired lease, or none, has to be renewed; one that is current was accepted. -/
theorem accepted_of_leaseCurrent {nowMs : Int}
    (hcurrent : w.leaseCurrent inboxId nowMs = true) : inboxId ∈ w.accepted := by
  obtain ⟨expiresAtMs, hstate, _⟩ := (any_eq_true _ _).1 hcurrent
  rw [leaseState] at hstate
  obtain ⟨lease, hfind, _⟩ := map_eq_some_iff.1 hstate
  have hid := find?_some hfind
  rw [decide_eq_true_eq] at hid
  rw [← hid]
  exact h.leases lease (mem_of_find?_eq_some hfind)

/-- The rest of `#ensure`, when the pointer names the inbox. -/
theorem Inv.lease (hr : w.runs[r]? = some old)
    (hpointer : w.pointer = some inboxId) (nowMs : Int) :
    Inv bootstrapInboxId (w.lease bootstrapInboxId r inboxId nowMs) := by
  rw [World.lease]
  by_cases hbootstrap : inboxId = bootstrapInboxId
  · rw [if_pos hbootstrap]
    exact h.setRun hr trivial (by simp [RunPhase.mints])
  · rw [if_neg hbootstrap]
    by_cases hcurrent : w.leaseCurrent inboxId nowMs = true
    · rw [if_pos hcurrent]
      exact h.setRun hr ⟨hpointer, accepted_of_leaseCurrent h hcurrent⟩ (by simp [RunPhase.mints])
    · rw [if_neg hcurrent]
      exact h.setRun hr hpointer (by simp [RunPhase.mints])

theorem Inv.pointerRead (hr : w.runs[r]? = some .reading)
    (halone : w.pointer = none → w.noneMints = true) (nowMs : Int) :
    Inv bootstrapInboxId (w.pointerRead bootstrapInboxId r nowMs) := by
  rw [World.pointerRead]
  cases hpointer : w.pointer with
  | none => exact h.setRun hr trivial fun _ => ⟨hpointer, .inr (halone hpointer)⟩
  | some inboxId =>
    simp only
    by_cases hclaim : inboxId ∈ w.claims
    · rw [if_pos hclaim]
      exact h.lease hr hpointer nowMs
    · rw [if_neg hclaim]
      exact h.setRun hr trivial (by simp [RunPhase.mints])

end

/-! ### What a run changes -/

theorem grows_addClaim (w : World) (inboxId : String) : Grows w (w.addClaim inboxId) where
  claims _ h := mem_append_left _ h
  accepted _ h := h
  pointer _ h := h

theorem Established.addClaim (h : Established bootstrapInboxId w) (inboxId : String) :
    Established bootstrapInboxId (w.addClaim inboxId) where
  pointer := h.pointer
  claimed p hp := ⟨mem_append_left _ (h.claimed p hp).1, (h.claimed p hp).2⟩
  accepted := h.accepted
  published := h.published
  booted := h.booted

/-- Before the pointer is set nothing is leased, published or booted from. -/
theorem Established.writePointer (h : Established bootstrapInboxId w) (hunset : w.pointer = none)
    (hclaim : inboxId ∈ w.claims) (hother : inboxId ≠ bootstrapInboxId) :
    Established bootstrapInboxId (w.writePointer inboxId) where
  pointer := by
    show w.pointerWrites ++ [inboxId] = [inboxId]
    rw [h.pointer, hunset]
    rfl
  claimed p hp := by
    obtain rfl : inboxId = p := some_inj.1 hp
    exact ⟨hclaim, hother⟩
  accepted i hi := by
    have hset := h.accepted i hi
    rw [hunset] at hset
    cases hset
  published i hi := by
    have hset := (h.published i hi).1
    rw [hunset] at hset
    cases hset
  booted i hi := by
    have hset := h.booted i hi
    rw [hunset] at hset
    cases hset

theorem grows_writePointer (hunset : w.pointer = none) (inboxId : String) :
    Grows w (w.writePointer inboxId) where
  claims _ h := h
  accepted _ h := h
  pointer p h := by
    rw [hunset] at h
    cases h

theorem grows_accept (w : World) (inboxId : String) : Grows w (w.accept inboxId) where
  claims _ h := h
  accepted _ h := mem_append_left _ h
  pointer _ h := h

theorem Established.accept (h : Established bootstrapInboxId w) (hpointer : w.pointer = some inboxId) :
    Established bootstrapInboxId (w.accept inboxId) where
  pointer := h.pointer
  claimed := h.claimed
  accepted i hi := by
    rcases mem_append hi with hold | hnew
    · exact h.accepted i hold
    · rw [hnew]
      exact hpointer
  published i hi := ⟨(h.published i hi).1, mem_append_left _ (h.published i hi).2⟩
  booted := h.booted

section

variable (h : Inv bootstrapInboxId w)
include h

/-- A claim is stored. -/
theorem Inv.persisted (hr : w.runs[r]? = some (.persisting inboxId))
    (hphase : RunOk bootstrapInboxId (w.addClaim inboxId) phase) :
    Inv bootstrapInboxId ((w.addClaim inboxId).setRun r phase) := by
  refine h.next (grows_addClaim w inboxId) (h.established.addClaim inboxId) rfl rfl h.leases hr hphase
    (fun _ => ⟨?_, .inl rfl⟩) (.inl rfl)
  exact h.unset _ (mem_of_getElem? hr) rfl

/-- The pointer is written. -/
theorem Inv.pointed (hr : w.runs[r]? = some (.pointing inboxId))
    (hphase : RunOk bootstrapInboxId (w.writePointer inboxId) phase) (hmints : phase.mints = false) :
    Inv bootstrapInboxId ((w.writePointer inboxId).setRun r phase) := by
  have hunset := h.unset _ (mem_of_getElem? hr) rfl
  obtain ⟨hother, hclaim⟩ := h.runs _ (mem_of_getElem? hr)
  refine h.next (grows_writePointer hunset inboxId)
    (h.established.writePointer hunset hclaim hother) rfl rfl h.leases hr hphase ?_ (.inr rfl)
  intro hmint
  rw [hmints] at hmint
  cases hmint

/-- The provider accepts the claim. -/
theorem Inv.claimed (hr : w.runs[r]? = some (.claiming inboxId))
    (hphase : RunOk bootstrapInboxId (w.accept inboxId) phase) (hmints : phase.mints = false) :
    Inv bootstrapInboxId ((w.accept inboxId).setRun r phase) := by
  have hpointer : w.pointer = some inboxId := h.runs _ (mem_of_getElem? hr)
  refine h.next (grows_accept w inboxId) (h.established.accept hpointer) rfl rfl
    (fun lease hlease => mem_append_left _ (h.leases lease hlease)) hr hphase ?_ (.inl rfl)
  intro hmint
  rw [hmints] at hmint
  cases hmint

/-- The lease is recorded. -/
theorem Inv.recorded (hr : w.runs[r]? = some (.recording inboxId))
    (expiresAtMs : Int) :
    Inv bootstrapInboxId ((w.recordLease inboxId expiresAtMs).setRun r (.closing inboxId true)) := by
  obtain ⟨hpointer, haccepted⟩ := h.runs _ (mem_of_getElem? hr)
  have hestablished : Established bootstrapInboxId (w.recordLease inboxId expiresAtMs) :=
    ⟨h.established.pointer, h.established.claimed, h.established.accepted, h.established.published,
      h.established.booted⟩
  refine h.next (grows_of_eq rfl rfl rfl) hestablished rfl rfl (fun lease hlease => ?_) hr
    ⟨hpointer, fun _ => haccepted⟩ (by simp [RunPhase.mints]) (.inl rfl)
  rcases mem_cons.1 hlease with hnew | hold
  · rw [hnew]
    exact haccepted
  · exact h.leases lease hold

theorem Inv.pointing (hr : w.runs[r]? = some (.pointing inboxId))
    (nowMs : Int) :
    Inv bootstrapInboxId ((w.writePointer inboxId).lease bootstrapInboxId r inboxId nowMs) := by
  rw [World.lease]
  by_cases hbootstrap : inboxId = bootstrapInboxId
  · rw [if_pos hbootstrap]
    exact h.pointed hr trivial rfl
  · rw [if_neg hbootstrap]
    by_cases hcurrent : (w.writePointer inboxId).leaseCurrent inboxId nowMs = true
    · rw [if_pos hcurrent]
      have haccepted : inboxId ∈ w.accepted := accepted_of_leaseCurrent h hcurrent
      exact h.pointed hr ⟨rfl, haccepted⟩ rfl
    · rw [if_neg hcurrent]
      exact h.pointed hr rfl rfl

theorem Inv.runTurn {turn : Turn}
    (hok : w.MintsAlone bootstrapInboxId (.runTurn r turn)) :
    Inv bootstrapInboxId (w.runTurn bootstrapInboxId r turn) := by
  have hfails : ∀ phase, w.runs[r]? = some phase → Inv bootstrapInboxId (w.setRun r .failed) :=
    fun phase hr => h.setRun hr trivial (by simp [RunPhase.mints])
  rw [World.runTurn]
  cases hr : w.runs[r]? with
  | none => exact h
  | some phase =>
    have hknown := h.runs phase (mem_of_getElem? hr)
    cases phase with
    | reading =>
      cases hresponse : turn.response with
      | ok => exact h.pointerRead hr ((hok hresponse).1 hr) turn.nowMs
      | throws => exact hfails _ hr
      | throwsLate => exact hfails _ hr
    | creating =>
      cases hresponse : turn.response with
      | ok =>
        refine h.setRun hr ((hok hresponse).2 hr) fun _ => ⟨?_, .inl rfl⟩
        exact h.unset _ (mem_of_getElem? hr) rfl
      | throws => exact hfails _ hr
      | throwsLate => exact hfails _ hr
    | persisting inboxId =>
      cases turn.response with
      | ok => exact h.persisted hr ⟨hknown, mem_append_right _ (mem_singleton_self _)⟩
      | throws => exact hfails _ hr
      | throwsLate => exact h.persisted hr trivial
    | pointing inboxId =>
      cases turn.response with
      | ok => exact h.pointing hr turn.nowMs
      | throws => exact hfails _ hr
      | throwsLate => exact h.pointed hr trivial rfl
    | opening inboxId =>
      cases turn.response with
      | ok => exact h.setRun hr hknown (by simp [RunPhase.mints])
      | throws => exact hfails _ hr
      | throwsLate => exact hfails _ hr
    | connecting inboxId =>
      have hcloses : Inv bootstrapInboxId (w.setRun r (.closing inboxId false)) :=
        h.setRun hr ⟨hknown, by simp⟩ (by simp [RunPhase.mints])
      cases turn.response with
      | ok => exact h.setRun hr hknown (by simp [RunPhase.mints])
      | throws => exact hcloses
      | throwsLate => exact hcloses
    | claiming inboxId =>
      have haccepted : inboxId ∈ (w.accept inboxId).accepted :=
        mem_append_right _ (mem_singleton_self _)
      cases turn.response with
      | ok => exact h.claimed hr ⟨hknown, haccepted⟩ rfl
      | throws => exact h.setRun hr ⟨hknown, by simp⟩ (by simp [RunPhase.mints])
      | throwsLate => exact h.claimed hr ⟨hknown, by simp⟩ rfl
    | recording inboxId =>
      cases turn.response with
      | ok => exact h.recorded hr turn.expiresAtMs
      | throws => exact h.setRun hr ⟨hknown.1, fun _ => hknown.2⟩ (by simp [RunPhase.mints])
      | throwsLate => exact h.recorded hr turn.expiresAtMs
    | closing inboxId leased =>
      cases leased with
      | true => exact h.setRun hr ⟨hknown.1, hknown.2 rfl⟩ (by simp [RunPhase.mints])
      | false => exact hfails _ hr
    | done inboxId => exact h
    | failed => exact h

/-! ### Publications -/

/-- What neither runs nor changes the storage keeps the invariant. -/
theorem Inv.of_eq (hgrows : Grows w w')
    (hestablished : Established bootstrapInboxId w') (hruns : w'.runs = w.runs)
    (hpublications : ∀ publication ∈ w'.publications, PublicationOk w' publication)
    (hleases : ∀ lease ∈ w'.leases, lease.1 ∈ w'.accepted) (hpointer : w'.pointer = w.pointer) :
    Inv bootstrapInboxId w' where
  established := hestablished
  runs phase hphase := (h.runs phase (hruns ▸ hphase)).mono hgrows
  publications := hpublications
  leases := hleases
  alone j j' p p' hj hj' := by
    rw [hruns] at hj hj'
    exact h.alone j j' p p' hj hj'
  unset phase hphase hmint := by
    rw [hpointer]
    exact h.unset phase (hruns ▸ hphase) hmint

theorem Inv.setPublication (k : Nat) {publication : Publication}
    (hok : PublicationOk w publication) : Inv bootstrapInboxId (w.setPublication k publication) := by
  refine h.of_eq (grows_of_eq rfl rfl rfl) ⟨h.established.pointer, h.established.claimed,
    h.established.accepted, h.established.published, h.established.booted⟩ rfl (fun p hp => ?_)
    h.leases rfl
  rcases mem_set hp with hold | hnew
  · exact (h.publications p hold).mono (grows_of_eq rfl rfl rfl)
  · rw [hnew]
    exact hok.mono (grows_of_eq rfl rfl rfl)

/-- The home publishes a bundle. -/
theorem Inv.publish (hpointer : w.pointer = some inboxId)
    (haccepted : inboxId ∈ w.accepted) : Inv bootstrapInboxId (w.publish inboxId) := by
  refine h.of_eq (grows_of_eq rfl rfl rfl) ⟨h.established.pointer, h.established.claimed,
    h.established.accepted, fun i hi => ?_, h.established.booted⟩ rfl (fun p hp => ?_) h.leases rfl
  · rcases mem_append hi with hold | hnew
    · exact h.established.published i hold
    · rw [hnew]
      exact ⟨hpointer, haccepted⟩
  · exact (h.publications p hp).mono (grows_of_eq rfl rfl rfl)

theorem Inv.publicationTurn (k : Nat) (response : Response) :
    Inv bootstrapInboxId (w.publicationTurn k response) := by
  unfold World.publicationTurn
  cases hk : w.publications[k]? with
  | none => exact h
  | some publication =>
    have hknown := h.publications publication (mem_of_getElem? hk)
    cases publication with
    | ensuring run =>
      simp only
      cases hrun : w.runs[run]? with
      | none => exact h
      | some phase =>
        cases phase with
        | done inboxId => exact h.setPublication k (h.runs _ (mem_of_getElem? hrun))
        | failed => exact h.setPublication k trivial
        | _ => exact h
    | building inboxId =>
      cases response with
      | ok => exact h.setPublication k hknown
      | throws => exact h.setPublication k trivial
      | throwsLate => exact h.setPublication k trivial
    | publishing inboxId =>
      cases response with
      | ok => exact (h.publish hknown.1 hknown.2).setPublication k trivial
      | throws => exact h.setPublication k trivial
      | throwsLate => exact (h.publish hknown.1 hknown.2).setPublication k trivial
    | published => exact h
    | failed => exact h

/-! ### Calls -/

/-- Which run an establisher rides is no concern of the storage. -/
theorem Inv.withEstablishers (establishers : List (Option Nat)) :
    Inv bootstrapInboxId { w with establishers := establishers } :=
  h.of_eq (grows_of_eq rfl rfl rfl) ⟨h.established.pointer, h.established.claimed,
    h.established.accepted, h.established.published, h.established.booted⟩ rfl
    (fun p hp => (h.publications p hp).mono (grows_of_eq rfl rfl rfl)) h.leases rfl

/-- A new run has read nothing yet. -/
theorem Inv.newRun :
    Inv bootstrapInboxId { w with runs := w.runs ++ [.reading] } where
  established := ⟨h.established.pointer, h.established.claimed, h.established.accepted,
    h.established.published, h.established.booted⟩
  runs phase hphase := by
    rcases mem_append hphase with hold | hnew
    · exact (h.runs phase hold).mono (grows_of_eq rfl rfl rfl)
    · rw [hnew]
      trivial
  publications p hp := (h.publications p hp).mono (grows_of_eq rfl rfl rfl)
  leases := h.leases
  alone j j' p p' hj hj' hp hp' := by
    rcases getElem_append hj with ⟨_, hnew⟩ | ⟨_, hold⟩
    · rw [hnew] at hp
      cases hp
    · rcases getElem_append hj' with ⟨_, hnew⟩ | ⟨_, hold'⟩
      · rw [hnew] at hp'
        cases hp'
      · exact h.alone j j' p p' hold hold' hp hp'
  unset phase hphase hmint := by
    rcases mem_append hphase with hold | hnew
    · exact h.unset phase hold hmint
    · rw [hnew] at hmint
      cases hmint

theorem Inv.ensureEstablished (e : Nat) :
    Inv bootstrapInboxId (w.ensureEstablished e) := by
  rw [World.ensureEstablished]
  split
  · exact h.newRun.withEstablishers _
  · exact h

theorem Inv.publishOwnDeviceBundle (e : Nat) :
    Inv bootstrapInboxId (w.publishOwnDeviceBundle e) := by
  have hensured := h.ensureEstablished e
  rw [World.publishOwnDeviceBundle]
  split
  · refine hensured.of_eq (grows_of_eq rfl rfl rfl) ⟨hensured.established.pointer,
      hensured.established.claimed, hensured.established.accepted, hensured.established.published,
      hensured.established.booted⟩ rfl (fun p hp => ?_) hensured.leases rfl
    rcases mem_append hp with hold | hnew
    · exact (hensured.publications p hold).mono (grows_of_eq rfl rfl rfl)
    · rw [hnew]
      trivial
  · exact hensured

theorem Inv.bootEnrollment :
    Inv bootstrapInboxId (w.bootEnrollment bootstrapInboxId) := by
  rw [World.bootEnrollment]
  by_cases hclaim : bootstrapInboxId ∈ w.claims
  · rw [if_pos hclaim]
    exact h
  · rw [if_neg hclaim]
    have hgrows := grows_addClaim w bootstrapInboxId
    exact h.of_eq hgrows (h.established.addClaim bootstrapInboxId) rfl
      (fun p hp => (h.publications p hp).mono hgrows) h.leases rfl

theorem Inv.bootPortable :
    Inv bootstrapInboxId (w.bootPortable bootstrapInboxId) := by
  rw [World.bootPortable]
  cases hpointer : w.pointer with
  | none => exact h
  | some inboxId =>
    simp only
    by_cases hvalid : inboxId ∈ w.claims ∧ inboxId ≠ bootstrapInboxId
    · rw [if_pos hvalid]
      rw [← hpointer]
      refine h.of_eq (grows_of_eq rfl rfl rfl) ⟨h.established.pointer, h.established.claimed,
        h.established.accepted, h.established.published, fun i hi => ?_⟩ rfl
        (fun p hp => (h.publications p hp).mono (grows_of_eq rfl rfl rfl)) h.leases rfl
      rcases mem_append hi with hold | hnew
      · exact h.established.booted i hold
      · rw [hnew]
        exact hpointer
    · rw [if_neg hvalid]
      exact h

theorem Inv.step {e : Event}
    (hok : w.MintsAlone bootstrapInboxId e) : Inv bootstrapInboxId (w.step bootstrapInboxId e) := by
  cases e with
  | newEstablisher => exact h.withEstablishers _
  | ensureEstablished e => exact h.ensureEstablished e
  | publishOwnDeviceBundle e => exact h.publishOwnDeviceBundle e
  | runTurn r turn => exact h.runTurn hok
  | forgetRun e =>
    rw [World.step, forgetRun]
    split
    · split
      · exact h.withEstablishers _
      · exact h
    · exact h
  | publicationTurn k response => exact h.publicationTurn k response
  | bootEnrollment => exact h.bootEnrollment
  | bootPortable => exact h.bootPortable
  | crash =>
    exact ⟨⟨h.established.pointer, h.established.claimed, h.established.accepted,
      h.established.published, h.established.booted⟩, fun _ h => (nomatch h), fun _ h => (nomatch h),
      h.leases, fun _ _ _ _ h => (nomatch h), fun _ h => (nomatch h)⟩

end

/-! ### The pointer stays -/

@[simp] theorem pointerWrites_setRun (w : World) (r : Nat) (phase : RunPhase) :
    (w.setRun r phase).pointerWrites = w.pointerWrites := rfl

theorem pointerWrites_lease (w : World) (r : Nat) (inboxId : String) (nowMs : Int) :
    (w.lease bootstrapInboxId r inboxId nowMs).pointerWrites = w.pointerWrites := by
  rw [lease]
  split
  · rfl
  · split
    · rfl
    · rfl

/-- What was written to the pointer is not forgotten. -/
theorem pointerWrites_step (bootstrapInboxId : String) (w : World) (e : Event) :
    ∃ writes, (w.step bootstrapInboxId e).pointerWrites = w.pointerWrites ++ writes := by
  have hsame : ∀ w' : World, w'.pointerWrites = w.pointerWrites →
      ∃ writes, w'.pointerWrites = w.pointerWrites ++ writes :=
    fun w' h => ⟨[], h.trans (append_nil _).symm⟩
  cases e with
  | runTurn r turn =>
    show ∃ writes, (w.runTurn bootstrapInboxId r turn).pointerWrites = w.pointerWrites ++ writes
    unfold runTurn
    split
    case h_1 =>
      refine hsame _ ?_
      rw [pointerRead]
      split
      · split
        · exact pointerWrites_lease w r _ turn.nowMs
        · rfl
      · rfl
    case h_8 inboxId _ _ =>
      exact ⟨[inboxId], pointerWrites_lease (w.writePointer inboxId) r inboxId turn.nowMs⟩
    case h_10 inboxId _ _ => exact ⟨[inboxId], rfl⟩
    all_goals exact hsame _ rfl
  | publicationTurn k response =>
    refine hsame _ ?_
    show (w.publicationTurn k response).pointerWrites = w.pointerWrites
    unfold publicationTurn
    split
    · split <;> rfl
    all_goals rfl
  | newEstablisher => exact hsame _ rfl
  | ensureEstablished e =>
    refine hsame _ ?_
    rw [step, ensureEstablished]
    split <;> rfl
  | publishOwnDeviceBundle e =>
    refine hsame _ ?_
    rw [step, publishOwnDeviceBundle, ensureEstablished]
    split <;> split <;> rfl
  | forgetRun e =>
    refine hsame _ ?_
    rw [step, forgetRun]
    split
    · split <;> rfl
    · rfl
  | bootEnrollment =>
    refine hsame _ ?_
    rw [step, bootEnrollment]
    split <;> rfl
  | bootPortable =>
    refine hsame _ ?_
    rw [step, bootPortable]
    split
    · split <;> rfl
    · rfl
  | crash => exact hsame _ rfl

theorem pointerWrites_run (bootstrapInboxId : String) : ∀ (es : List Event) (w : World),
    ∃ writes, (run (step bootstrapInboxId) w es).pointerWrites = w.pointerWrites ++ writes
  | [], w => ⟨[], (append_nil _).symm⟩
  | e :: es, w => by
    obtain ⟨first, hfirst⟩ := pointerWrites_step bootstrapInboxId w e
    obtain ⟨rest, hrest⟩ := pointerWrites_run bootstrapInboxId es (w.step bootstrapInboxId e)
    exact ⟨first ++ rest, by rw [run_cons, hrest, hfirst, append_assoc]⟩

/-- With one write at most, a pointer that is set is the one that was written first. -/
theorem pointer_run {p : String} (es : List Event) (hw : Established bootstrapInboxId w)
    (hafter : Established bootstrapInboxId (run (step bootstrapInboxId) w es))
    (hp : w.pointer = some p) : (run (step bootstrapInboxId) w es).pointer = some p := by
  obtain ⟨writes, hwrites⟩ := pointerWrites_run bootstrapInboxId es w
  rw [hafter.pointer, hw.pointer, hp] at hwrites
  cases hpointer : (run (step bootstrapInboxId) w es).pointer with
  | none =>
    rw [hpointer] at hwrites
    cases hwrites
  | some q =>
    rw [hpointer] at hwrites
    obtain ⟨rfl, _⟩ := cons.inj hwrites
    rfl

theorem established_throughout {es : List Event}
    (h : Meets (step bootstrapInboxId) (MintsAlone bootstrapInboxId) start es) (n : Nat) :
    Established bootstrapInboxId (after bootstrapInboxId (es.take n)) := by
  refine throughout (step bootstrapInboxId) (P := Established bootstrapInboxId)
    (fun es hm => ?_) es h n
  have hinv : Inv bootstrapInboxId (after bootstrapInboxId es) :=
    invariant (step bootstrapInboxId) (fun _ _ hw he => hw.step he) es start
      (inv_start bootstrapInboxId) hm
  exact hinv.established

/-- **The portable inbox is established once** where a run mints only while no other does: the pointer
is set once and stays, and every inbox that is leased, published or booted from is the one it
names. -/
theorem run_established (bootstrapInboxId : String) (es : List Event)
    (h : Runs.Meets (step bootstrapInboxId) (MintsAlone bootstrapInboxId) start es) :
    (∀ n, Established bootstrapInboxId (after bootstrapInboxId (es.take n))) ∧
      ∀ m n p, m ≤ n → (after bootstrapInboxId (es.take m)).pointer = some p →
        (after bootstrapInboxId (es.take n)).pointer = some p := by
  refine ⟨established_throughout h, fun m n p hmn hp => ?_⟩
  have hsplit : es.take n = es.take m ++ (es.take n).drop m := by
    conv_lhs => rw [← take_append_drop m (es.take n), take_take, Nat.min_eq_left hmn]
  have hrun : after bootstrapInboxId (es.take n) = run (step bootstrapInboxId)
      (after bootstrapInboxId (es.take m)) ((es.take n).drop m) := by
    rw [after, hsplit, run_append, ← hsplit]
    rfl
  have hafter := established_throughout h n
  rw [hrun] at hafter ⊢
  exact pointer_run _ (established_throughout h m) hafter hp

/-- A turn that succeeds. -/
def goesOn (r : Nat) (drawn : String) : Event := .runTurn r ⟨.ok, 10, drawn, 100⟩

/-- The process dies between the claim and the pointer; in its next life the inbox is established and
published. -/
def resumed : List Event :=
  [.newEstablisher, .publishOwnDeviceBundle 0] ++ replicate 3 (goesOn 0 "inbox-1") ++
    [.crash, .newEstablisher, .publishOwnDeviceBundle 0] ++ replicate 9 (goesOn 0 "inbox-2") ++
    [.forgetRun 0, .publicationTurn 0 .ok, .publicationTurn 0 .ok, .publicationTurn 0 .ok,
      .bootPortable]

theorem run_established_resumed :
    (∀ n, Established "inbox-0" (after "inbox-0" (resumed.take n))) ∧
      ∀ m n p, m ≤ n → (after "inbox-0" (resumed.take m)).pointer = some p →
        (after "inbox-0" (resumed.take n)).pointer = some p :=
  run_established "inbox-0" resumed (by decide)

/-- Two activations at once: the inbox that the first one has leased is not the one that the pointer
names in the end. -/
theorem pointer_written_twice : ¬ ∀ (bootstrapInboxId : String) (es : List Event),
    (∀ r turn, .runTurn r turn ∈ es → turn.drawn ≠ bootstrapInboxId) →
      Established bootstrapInboxId (after bootstrapInboxId es) := by
  intro h
  have hestablished := h "inbox-0" ([.newEstablisher, .newEstablisher, .publishOwnDeviceBundle 0,
    .publishOwnDeviceBundle 1, goesOn 0 "inbox-1", goesOn 1 "inbox-2"] ++
    List.replicate 6 (goesOn 0 "inbox-1") ++ List.replicate 3 (goesOn 1 "inbox-2"))
    (by
      intro r turn hturn
      simp [goesOn] at hturn
      rcases hturn with ⟨_, rfl⟩ | ⟨_, rfl⟩ | ⟨_, rfl⟩ | ⟨_, rfl⟩ <;> decide)
  exact absurd (hestablished.accepted "inbox-1" (by decide)) (by decide)

/-! ## One establisher -/

/-- In this life of the process there is no other establisher yet; and what `createClaim` draws is not
the bootstrap inbox. -/
def OneEstablisher (bootstrapInboxId : String) (w : World) : Event → Prop
  | .newEstablisher => w.establishers = []
  | .runTurn r turn => w.runs[r]? = some .creating → turn.drawn ≠ bootstrapInboxId
  | _ => True

instance (bootstrapInboxId : String) (w : World) (e : Event) :
    Decidable (w.OneEstablisher bootstrapInboxId e) := by
  cases e <;> first | exact isTrue trivial | exact inferInstanceAs (Decidable (_ = _)) |
    exact inferInstanceAs (Decidable (_ → _))

/-- There is one establisher, and it rides every run that is not settled. -/
structure Shared (w : World) : Prop where
  one : w.establishers.length ≤ 1
  rides : ∀ r phase, w.runs[r]? = some phase → phase.settled = false → some r ∈ w.establishers

theorem Shared.mintsAlone (h : Shared w) {e : Event} (hok : w.OneEstablisher bootstrapInboxId e) :
    w.MintsAlone bootstrapInboxId e := by
  cases e with
  | runTurn r turn =>
    refine fun _ => ⟨fun hr _ => ?_, hok⟩
    rw [noneMints, List.all_eq_true]
    intro phase hphase
    by_contra hmints
    rw [Bool.not_eq_true, Bool.not_eq_false'] at hmints
    obtain ⟨j, hj⟩ := mem_iff_getElem?.1 hphase
    have hopen : phase.settled = false := by
      cases phase <;> first | rfl | cases hmints
    -- both runs are ridden by the one establisher
    obtain ⟨a, ha⟩ := mem_iff_getElem?.1 (h.rides j phase hj hopen)
    obtain ⟨b, hb⟩ := mem_iff_getElem?.1 (h.rides r .reading hr rfl)
    have ha' := (List.getElem?_eq_some_iff.1 ha).1
    have hb' := (List.getElem?_eq_some_iff.1 hb).1
    have hone := h.one
    obtain rfl : a = b := by omega
    have hjr : j = r := some_inj.1 (some_inj.1 (ha.symm.trans hb))
    rw [hjr, hr] at hj
    obtain rfl := some_inj.1 hj
    cases hmints
  | _ => trivial

/-- A run that goes on was not settled, and no establisher leaves it. -/
theorem runTurn_cases (bootstrapInboxId : String) (w : World) (r : Nat) (turn : Turn) :
    (w.runTurn bootstrapInboxId r turn).establishers = w.establishers ∧
      ((w.runTurn bootstrapInboxId r turn).runs = w.runs ∨ ∃ old phase, w.runs[r]? = some old ∧
        old.settled = false ∧ (w.runTurn bootstrapInboxId r turn).runs = w.runs.set r phase) := by
  have hlease : ∀ (w : World) (inboxId : String),
      (w.lease bootstrapInboxId r inboxId turn.nowMs).establishers = w.establishers ∧
      ∃ phase, (w.lease bootstrapInboxId r inboxId turn.nowMs).runs = w.runs.set r phase := by
    intro w inboxId
    rw [lease]
    split
    · exact ⟨rfl, _, rfl⟩
    · split
      · exact ⟨rfl, _, rfl⟩
      · exact ⟨rfl, _, rfl⟩
  unfold runTurn
  split
  case h_1 hr _ =>
    rw [pointerRead]
    split
    · split
      · obtain ⟨hsame, phase, hruns⟩ := hlease w _
        exact ⟨hsame, .inr ⟨_, phase, hr, rfl, hruns⟩⟩
      · exact ⟨rfl, .inr ⟨_, _, hr, rfl, rfl⟩⟩
    · exact ⟨rfl, .inr ⟨_, _, hr, rfl, rfl⟩⟩
  case h_8 inboxId hr _ =>
    obtain ⟨hsame, phase, hruns⟩ := hlease (w.writePointer inboxId) inboxId
    exact ⟨hsame, .inr ⟨_, phase, hr, rfl, hruns⟩⟩
  all_goals first
    | exact ⟨rfl, .inl rfl⟩
    | exact ⟨rfl, .inr ⟨_, _, by assumption, rfl, rfl⟩⟩

theorem Shared.ensureEstablished (h : Shared w) (e : Nat) : Shared (w.ensureEstablished e) := by
  rw [World.ensureEstablished]
  split
  case h_1 hnone =>
    refine ⟨by rw [length_set]; exact h.one, fun r phase hr hopen => ?_⟩
    -- the new run is the one that its establisher holds, and no establisher lets go of an old one
    rcases getElem_append hr with ⟨hnew, _⟩ | ⟨_, hold⟩
    · rw [hnew]
      exact mem_set_self hnone
    · exact mem_set_of_ne hnone (h.rides r phase hold hopen) (by simp)
  case h_2 => exact h

theorem Shared.step (h : Shared w) {e : Event} (hok : w.OneEstablisher bootstrapInboxId e) :
    Shared (w.step bootstrapInboxId e) := by
  cases e with
  | newEstablisher =>
    have hnone : w.establishers = [] := hok
    refine ⟨by rw [World.step, hnone]; exact Nat.le_refl 1, fun r phase hr hopen => ?_⟩
    have hrides := h.rides r phase hr hopen
    rw [hnone] at hrides
    cases hrides
  | ensureEstablished e => exact h.ensureEstablished e
  | publishOwnDeviceBundle e =>
    have hensured := h.ensureEstablished e
    rw [World.step, World.publishOwnDeviceBundle]
    split
    · exact ⟨hensured.one, hensured.rides⟩
    · exact hensured
  | runTurn r turn =>
    obtain ⟨hsame, hruns⟩ := runTurn_cases bootstrapInboxId w r turn
    refine ⟨by rw [World.step, hsame]; exact h.one, fun j phase hj hopen => ?_⟩
    rw [World.step] at hj ⊢
    rw [hsame]
    rcases hruns with hruns | ⟨old, phase', hold, hunsettled, hruns⟩
    · rw [hruns] at hj
      exact h.rides j phase hj hopen
    · rw [hruns] at hj
      rcases getElem_set hj with ⟨hjr, _⟩ | ⟨_, hother⟩
      · rw [hjr]
        exact h.rides r old hold hunsettled
      · exact h.rides j phase hother hopen
  | forgetRun e =>
    rw [World.step, World.forgetRun]
    split
    case h_1 r he =>
      split
      case isTrue hsettled =>
        refine ⟨by rw [length_set]; exact h.one, fun j phase hj hopen => ?_⟩
        refine mem_set_of_ne he (h.rides j phase hj hopen) fun hjr => ?_
        -- the run that is forgotten is settled, and this one is not
        rw [some_inj.1 hjr] at hj
        have hj' : w.runs[r]? = some phase := hj
        rw [hj', any_some, hopen] at hsettled
        cases hsettled
      case isFalse => exact h
    case h_2 => exact h
  | publicationTurn k response =>
    show Shared (w.publicationTurn k response)
    unfold publicationTurn
    split
    · split
      · exact ⟨h.one, h.rides⟩
      · exact ⟨h.one, h.rides⟩
      · exact h
    all_goals first | exact h | exact ⟨h.one, h.rides⟩
  | bootEnrollment =>
    rw [World.step, World.bootEnrollment]
    split
    · exact h
    · exact ⟨h.one, h.rides⟩
  | bootPortable =>
    rw [World.step, World.bootPortable]
    split
    · split
      · exact ⟨h.one, h.rides⟩
      · exact h
    · exact h
  | crash => exact ⟨Nat.zero_le 1, fun _ _ hr => by cases hr⟩

/-- With one establisher for each life of the process, a run mints alone. -/
theorem run_mintsAlone (bootstrapInboxId : String) (es : List Event)
    (h : Meets (step bootstrapInboxId) (OneEstablisher bootstrapInboxId) start es) :
    Meets (step bootstrapInboxId) (MintsAlone bootstrapInboxId) start es :=
  meets_of_invariant (step bootstrapInboxId) (I := Shared)
    (fun _ _ hw he => hw.step he) (fun _ _ hw he => hw.mintsAlone he) es start
    ⟨Nat.zero_le 1, fun _ _ hr => (nomatch hr)⟩ h

/-- **One establisher suffices.** With one for each life of the process, the pointer is written once at
most, and what is leased, published or booted from is the inbox that it names. -/
theorem run_establishedAlone (bootstrapInboxId : String) (es : List Event)
    (h : Meets (step bootstrapInboxId) (OneEstablisher bootstrapInboxId) start es) (n : Nat) :
    Established bootstrapInboxId (after bootstrapInboxId (es.take n)) :=
  established_throughout (run_mintsAlone bootstrapInboxId es h) n

theorem run_establishedAlone_resumed : Established "inbox-0" (after "inbox-0" (resumed.take 99)) :=
  run_establishedAlone "inbox-0" resumed (by decide) 99

end World

end RezChat.Inbox.Portable
