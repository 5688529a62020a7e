/-
The device-link ceremony and its recovery (`services/ServerDeviceLinkService.js`,
`services/CeremonyRecoveryWorker.js`, `storage/PendingCeremonyStore.js`).

A ceremony links a new device. It journals the registration, submits `device.add` to the
home, publishes the sealed response that releases the leaf certificate, and waits for the
device to confirm. A sweep reads the journal back: it publishes again what is still in time
and revokes what ran out of it. Both suspend at every `await`, so everything awaited is
carried out in one step and answered in it, and the code goes on in a later one.

The approver is not part of this repository. What it does is an event, and `Follows` states
what the code relies on: that it journals, registers, publishes and marks in this order, that
it publishes only when the home bound the certificate it minted, and that it hears of no
device once it was cancelled.

`issued` and the home's `added` and `revoked` are records of what happened; no step of the
code reads `issued` or `added`.
-/
import RezChat.Lib.OrdMap
import RezChat.Lib.Runs

set_option autoImplicit false

namespace RezChat.Devices

/-! ## The journal record -/

/-- `PENDING_CEREMONY_STATES`. -/
inductive PendingState where
  | pending
  | published
  | confirmed
  | expired
  deriving DecidableEq

/-- `isAllowedCeremonyTransition`. -/
def isAllowedCeremonyTransition : PendingState → PendingState → Bool
  | .pending, .published => true
  | .pending, .expired => true
  | .published, .confirmed => true
  | _, _ => false

/-- `PendingCeremonyRecordV1`. The sealed response it stores releases `certId` to
`deviceId`. -/
structure PendingCeremonyRecord where
  deviceId : String
  certId : String
  state : PendingState
  expiresAtMs : Nat
  deriving DecidableEq

namespace PendingCeremonyRecord

def needsPublication (r : PendingCeremonyRecord) : Bool := decide (r.state = .pending)

/-- The leaf a record is about. -/
def leaf (r : PendingCeremonyRecord) : String × String := (r.deviceId, r.certId)

end PendingCeremonyRecord

/-! ## What is awaited -/

/-- A call into the store, the home or the rendezvous. -/
inductive Call where
  | get (deviceId : String)
  | set (r : PendingCeremonyRecord)
  | delete (deviceId : String)
  | keys
  | put (deviceId certId : String)
  | deviceAdd (deviceId certId : String)
  | deviceRevoke (deviceId certId : String)
  | getAuthorityState

/-- How a call goes. `threwLate` is a call that took effect and failed all the same, `bound`
a home that registers the device under another certificate, `rejected` the answer
`BAD_TARGET`, `declined` a `null`, and `unproven` a success that nothing was committed for. -/
inductive Reply where
  | ok
  | threw
  | threwLate
  | bound (certId : String)
  | rejected
  | declined
  | unproven
  deriving DecidableEq

def Reply.takesEffect : Reply → Bool
  | .ok => true
  | .threwLate => true
  | _ => false

/-- What an awaited promise came to. -/
inductive Answer where
  | done
  | threw
  | cancelled
  | row (r : Option PendingCeremonyRecord)
  | keys (deviceIds : List String)
  | committed (certId : String)
  | rejected
  | declined
  | revoked (certIds : List String)
  | request (newDeviceId : String)
  deriving DecidableEq

/-! ## The ceremony -/

/-- The states a ceremony shows. -/
inductive CeremonyState where
  | codeIssued
  | pending
  | responding
  | confirmed
  | failed
  | expired
  | cancelled
  deriving DecidableEq

/-- How far `approver.approve()` has come. -/
inductive Progress where
  | began
  | persisted (deviceId certId : String)
  | registered (deviceId certId bound : String)
  | published (deviceId : String)
  | gaveUp
  deriving DecidableEq

/-- Where the ceremony is suspended: in `startCeremony`, in a phase of `#drive`, or in a call
that its approver makes. -/
inductive CeremonyAt where
  | starting
  | waitForRequest
  | parked
  | approve
  | createGet (fields : PendingCeremonyRecord)
  | createSet (r : PendingCeremonyRecord)
  | registerDevice (deviceId certId : String)
  | publish (deviceId certId : String)
  | markGet (deviceId : String) (target : PendingState)
  | markSet (r : PendingCeremonyRecord)
  | ended
  deriving DecidableEq

/-- `armed` is whether `rejectApproval` is there, `aborted` whether the approver was
cancelled. -/
structure Ceremony where
  state : CeremonyState
  newDeviceId : String
  armed : Bool
  aborted : Bool
  progress : Progress
  pc : CeremonyAt
  answer : Option Answer
  deriving DecidableEq

namespace Ceremony

/-- A ceremony whose `approver.start()` is awaited. -/
def fresh : Ceremony := ⟨.codeIssued, "", false, false, .began, .starting, none⟩

/-- The call a ceremony awaits. -/
def call? (c : Ceremony) : Option Call :=
  match c.pc with
  | .createGet fields => some (.get fields.deviceId)
  | .createSet r => some (.set r)
  | .registerDevice deviceId certId => some (.deviceAdd deviceId certId)
  | .publish deviceId certId => some (.put deviceId certId)
  | .markGet deviceId _ => some (.get deviceId)
  | .markSet r => some (.set r)
  | _ => none

/-- Suspend at the next `await`. -/
def await (a : CeremonyAt) (c : Ceremony) : Ceremony := { c with pc := a, answer := none }

@[simp] theorem await_pc (a : CeremonyAt) (c : Ceremony) : (c.await a).pc = a := rfl

@[simp] theorem await_answer (a : CeremonyAt) (c : Ceremony) : (c.await a).answer = none := rfl

@[simp] theorem await_progress (a : CeremonyAt) (c : Ceremony) :
    (c.await a).progress = c.progress := rfl

/-- A terminal event. -/
def finish (s : CeremonyState) (c : Ceremony) : Ceremony := { c.await .ended with state := s }

/-- A call of the approver's returned. -/
def toApprover (p : Progress) (c : Ceremony) : Ceremony := { c.await .approve with progress := p }

/-- `createPending`, past its read. -/
def createRead (fields : PendingCeremonyRecord) (existing : Option PendingCeremonyRecord)
    (c : Ceremony) : Ceremony :=
  match existing with
  | none => c.await (.createSet { fields with state := .pending })
  | some e =>
    if e.state = .confirmed then c.await (.createSet { fields with state := .pending })
    else c.toApprover .gaveUp

/-- `#transition`, past its read. The approver only warns when it fails. -/
def markRead (target : PendingState) (existing : Option PendingCeremonyRecord) (c : Ceremony) :
    Ceremony :=
  match existing with
  | none => c.await .approve
  | some e =>
    if isAllowedCeremonyTransition e.state target then c.await (.markSet { e with state := target })
    else c.await .approve

/-- What `cancelCeremony` makes of a ceremony: a parked one is vetoed, any other loses its
approver and, unless it is over, shows that it is cancelled. -/
def cancelled (c : Ceremony) : Ceremony :=
  if c.armed then
    { c with
      armed := false
      answer := some .cancelled }
  else
    { c with
      aborted := true
      state :=
        if c.state = .confirmed ∨ c.state = .failed ∨ c.state = .expired then c.state
        else .cancelled }

/-- The ceremony goes on with what it awaited. -/
def resume (c : Ceremony) (answer : Answer) : Ceremony :=
  match c.pc, answer with
  | .starting, .done => c.await .waitForRequest
  -- no ceremony comes of it
  | .starting, _ => c.finish .failed
  | .waitForRequest, .request newDeviceId =>
    { c.await .parked with
      newDeviceId
      state := .pending
      armed := true }
  | .waitForRequest, .cancelled => c.finish .cancelled
  | .waitForRequest, _ => c.finish .expired
  | .parked, .done => { c.toApprover .began with state := .responding }
  | .parked, _ => { c.finish .cancelled with aborted := true }
  | .approve, .done => c.finish .confirmed
  | .approve, _ => c.finish .failed
  | .createGet fields, .row existing => c.createRead fields existing
  | .createGet _, _ => c.toApprover .gaveUp
  | .createSet r, .done => c.toApprover (.persisted r.deviceId r.certId)
  | .createSet _, _ => c.toApprover .gaveUp
  | .registerDevice deviceId certId, .committed bound =>
    c.toApprover (.registered deviceId certId bound)
  | .registerDevice _ _, _ => c.toApprover .gaveUp
  | .publish deviceId _, .done => c.toApprover (.published deviceId)
  | .publish _ _, _ => c.toApprover .gaveUp
  | .markGet _ target, .row existing => c.markRead target existing
  | .markGet _ _, _ => c.await .approve
  | .markSet _, _ => c.await .approve
  | .ended, _ => c

end Ceremony

/-- What the approver does: it is started, hears of the new device or does not, and calls
what it was given. -/
inductive Move where
  | started
  | startFails
  | requested (newDeviceId : String)
  | deadline
  | requestCancelled
  | persistPending (fields : PendingCeremonyRecord)
  | registerDevice (deviceId certId : String)
  | put (deviceId certId : String)
  | markPublished (deviceId : String)
  | markConfirmed (deviceId : String)
  | returns
  | throws
  deriving DecidableEq

/-- What the approver may do next. -/
def Follows (c : Ceremony) : Move → Prop
  | .requested _ => c.aborted = false
  | .persistPending fields => c.progress = .began ∧ fields.deviceId = c.newDeviceId
  | .registerDevice deviceId certId => c.progress = .persisted deviceId certId
  | .put deviceId certId => c.progress = .registered deviceId certId certId
  | .markPublished deviceId => c.progress = .published deviceId
  | .markConfirmed deviceId => c.progress = .published deviceId
  | _ => True

instance (c : Ceremony) : (m : Move) → Decidable (Follows c m)
  | .requested _ => inferInstanceAs (Decidable (c.aborted = false))
  | .persistPending fields =>
    inferInstanceAs (Decidable (c.progress = .began ∧ fields.deviceId = c.newDeviceId))
  | .registerDevice deviceId certId =>
    inferInstanceAs (Decidable (c.progress = .persisted deviceId certId))
  | .put deviceId certId =>
    inferInstanceAs (Decidable (c.progress = .registered deviceId certId certId))
  | .markPublished deviceId => inferInstanceAs (Decidable (c.progress = .published deviceId))
  | .markConfirmed deviceId => inferInstanceAs (Decidable (c.progress = .published deviceId))
  | .started | .startFails | .deadline | .requestCancelled | .returns | .throws => isTrue trivial

namespace Ceremony

/-- The step of a ceremony that the approver takes. -/
def moves (c : Ceremony) (m : Move) : Ceremony :=
  match c.pc, m with
  | .starting, .started => { c with answer := some .done }
  | .starting, .startFails => { c with answer := some .threw }
  | .waitForRequest, .requested newDeviceId => { c with answer := some (.request newDeviceId) }
  | .waitForRequest, .deadline => { c with answer := some .threw }
  | .waitForRequest, .requestCancelled => { c with answer := some .cancelled }
  | .approve, .persistPending fields => c.await (.createGet fields)
  | .approve, .registerDevice deviceId certId => c.await (.registerDevice deviceId certId)
  | .approve, .put deviceId certId => c.await (.publish deviceId certId)
  | .approve, .markPublished deviceId => c.await (.markGet deviceId .published)
  | .approve, .markConfirmed deviceId => c.await (.markGet deviceId .confirmed)
  | .approve, .returns => { c with answer := some .done }
  | .approve, .throws => { c with answer := some .threw }
  | _, _ => c

/-- The leaf whose publication the approver asks for. -/
def publishes (c : Ceremony) (m : Move) : List (String × String) :=
  match c.pc, m with
  | .approve, .put deviceId certId => [(deviceId, certId)]
  | _, _ => []

end Ceremony

/-! ## The sweep -/

/-- The two work-lists: `listResumable` and `listCompensatable`. -/
inductive Pass where
  | resume
  | compensate

/-- Where the sweep is suspended. The record it works on is the one its list read. -/
inductive SweepAt where
  | listing (pass : Pass)
  | reading (pass : Pass) (key : String) (rest : List String) (out : List PendingCeremonyRecord)
  | republish (r : PendingCeremonyRecord)
  | markGet (r : PendingCeremonyRecord) (target : PendingState)
  | markSet (r next : PendingCeremonyRecord)
  | certIsRevoked (r : PendingCeremonyRecord)
  | submit (r : PendingCeremonyRecord)
  | proveRevoked (r : PendingCeremonyRecord)
  | afterRevokeGet (r : PendingCeremonyRecord)
  | afterRevokeDelete (r : PendingCeremonyRecord)
  | disprovenGet (r : PendingCeremonyRecord)
  | disprovenDelete (r : PendingCeremonyRecord)

structure Sweep where
  now : Nat
  todo : List PendingCeremonyRecord
  pc : SweepAt
  answer : Option Answer

namespace Sweep

def call? (s : Sweep) : Call :=
  match s.pc with
  | .listing _ => .keys
  | .reading _ key _ _ => .get key
  | .republish r => .put r.deviceId r.certId
  | .markGet r _ => .get r.deviceId
  | .markSet _ next => .set next
  | .certIsRevoked _ => .getAuthorityState
  | .submit r => .deviceRevoke r.deviceId r.certId
  | .proveRevoked _ => .getAuthorityState
  | .afterRevokeGet r => .get r.deviceId
  | .afterRevokeDelete r => .delete r.deviceId
  | .disprovenGet r => .get r.deviceId
  | .disprovenDelete r => .delete r.deviceId

def await (a : SweepAt) (s : Sweep) : Sweep := { s with pc := a, answer := none }

/-- `sweep`, up to its first `await`. -/
def begin (clock : Nat) : Sweep := ⟨clock, [], .listing .resume, none⟩

/-- The compensation pass takes its own time. -/
def compensation (clock : Nat) : Sweep := ⟨clock, [], .listing .compensate, none⟩

/-- The next record to publish again, or the second pass. -/
def nextResumable (clock : Nat) (s : Sweep) : List PendingCeremonyRecord → Sweep
  | [] => compensation clock
  | r :: todo =>
    if r.expiresAtMs ≤ s.now then nextResumable clock s todo
    else { s.await (.republish r) with todo }

/-- The next record to compensate. -/
def nextCompensatable (s : Sweep) : List PendingCeremonyRecord → Option Sweep
  | [] => none
  | r :: todo =>
    some { s.await (if r.state = .pending then .markGet r .expired else .certIsRevoked r) with
      todo }

/-- Begin the loop over a work-list. -/
def loop (clock : Nat) (s : Sweep) (pass : Pass) (out : List PendingCeremonyRecord) :
    Option Sweep :=
  match pass with
  | .resume => some (nextResumable clock s out)
  | .compensate => nextCompensatable s out

/-- What a work-list takes of the rows it reads. -/
def selects (s : Sweep) : Pass → PendingCeremonyRecord → Bool
  | .resume, r => r.needsPublication
  | .compensate, r => decide (r.state ≠ .confirmed) && decide (r.expiresAtMs ≤ s.now)

/-- Read the next row of a work-list. -/
def readNext (clock : Nat) (s : Sweep) (pass : Pass) (out : List PendingCeremonyRecord) :
    List String → Option Sweep
  | [] => s.loop clock pass out
  | key :: rest => some (s.await (.reading pass key rest out))

/-- The pass that a mark belongs to: `#resume` marks `published`, `#compensate`
`expired`. -/
def afterMark (clock : Nat) (s : Sweep) (r : PendingCeremonyRecord) (target : PendingState)
    (ok : Bool) : Option Sweep :=
  if target = .published then some (nextResumable clock s s.todo)
  else if ok then some (s.await (.certIsRevoked r))
  else nextCompensatable s s.todo

/-- The sweep goes on with what it awaited; `none` when it is over. An error of one record
leaves the record to the next sweep, one of a list ends the sweep. -/
def resume (clock : Nat) (s : Sweep) (answer : Answer) : Option Sweep :=
  match s.pc, answer with
  | .listing pass, .keys deviceIds => s.readNext clock pass [] deviceIds
  | .listing _, _ => none
  | .reading pass _ rest out, .row none => s.readNext clock pass out rest
  | .reading pass _ rest out, .row (some r) =>
    s.readNext clock pass (if s.selects pass r then out ++ [r] else out) rest
  | .reading _ _ _ _, _ => none
  | .republish r, .done => some (s.await (.markGet r .published))
  | .republish _, _ => some (nextResumable clock s s.todo)
  | .markGet r target, .row (some e) =>
    if isAllowedCeremonyTransition e.state target then
      some (s.await (.markSet r { e with state := target }))
    else s.afterMark clock r target false
  | .markGet r target, _ => s.afterMark clock r target false
  | .markSet r next, .done => s.afterMark clock r next.state true
  | .markSet r next, _ => s.afterMark clock r next.state false
  | .certIsRevoked r, .revoked certIds =>
    some (s.await (if r.certId ∈ certIds then .afterRevokeGet r else .submit r))
  | .certIsRevoked _, _ => nextCompensatable s s.todo
  | .submit r, .done => some (s.await (.proveRevoked r))
  | .submit r, .rejected =>
    if r.state = .pending ∨ r.state = .expired then some (s.await (.disprovenGet r))
    else nextCompensatable s s.todo
  | .submit _, _ => nextCompensatable s s.todo
  | .proveRevoked r, .revoked certIds =>
    if r.certId ∈ certIds then some (s.await (.afterRevokeGet r))
    else nextCompensatable s s.todo
  | .proveRevoked _, _ => nextCompensatable s s.todo
  | .afterRevokeGet r, .row (some e) =>
    if r.certId = e.certId then some (s.await (.afterRevokeDelete r))
    else nextCompensatable s s.todo
  | .afterRevokeGet _, _ => nextCompensatable s s.todo
  | .disprovenGet r, .row (some e) =>
    if r.certId = e.certId ∧ e.state ≠ .published ∧ e.state ≠ .confirmed then
      some (s.await (.disprovenDelete r))
    else nextCompensatable s s.todo
  | .disprovenGet _, _ => nextCompensatable s s.todo
  | .afterRevokeDelete _, _ => nextCompensatable s s.todo
  | .disprovenDelete _, _ => nextCompensatable s s.todo

/-- The leaf whose publication a sweep has just asked for. -/
def publishes : Option Sweep → List (String × String)
  | some s =>
    match s.pc with
    | .republish r => [r.leaf]
    | _ => []
  | none => []

end Sweep

/-! ## The world -/

/-- `journal` is durable, `ceremonies`, `current` and `sweep` are memory. `added` and
`revoked` are what the home has committed, `issued` the leaves whose sealed response was
handed to `put`. -/
structure World where
  journal : OrdMap String PendingCeremonyRecord
  added : List (String × String)
  revoked : List String
  issued : List (String × String)
  ceremonies : List Ceremony
  current : Option Nat
  sweep : Option Sweep

namespace World

/-- A server that never linked a device. -/
def initial : World := ⟨OrdMap.empty, [], [], [], [], none, none⟩

/-- Carry a call out: what it changes. -/
def effect (w : World) : Call → World
  | .set r => { w with journal := w.journal.set r.deviceId r }
  | .delete deviceId => { w with journal := w.journal.delete deviceId }
  | .deviceAdd deviceId certId => { w with added := (deviceId, certId) :: w.added }
  | .deviceRevoke _ certId => { w with revoked := certId :: w.revoked }
  | _ => w

/-- Carry a call out: what it answers. -/
def answer (w : World) : Call → Answer
  | .get deviceId => .row (w.journal.get? deviceId)
  | .keys => .keys w.journal.keys
  | .deviceAdd _ certId => .committed certId
  | .getAuthorityState => .revoked w.revoked
  | _ => .done

/-- A call is carried out. -/
def perform (w : World) (call : Call) : Reply → World × Answer
  | .ok => (w.effect call, w.answer call)
  | .threw => (w, .threw)
  | .threwLate => (w.effect call, .threw)
  | .bound certId =>
    match call with
    | .deviceAdd deviceId _ => (w.effect (.deviceAdd deviceId certId), .committed certId)
    | _ => (w, .threw)
  | .rejected => (w, .rejected)
  | .declined => (w, .declined)
  | .unproven => (w, .done)

def ceremony? (w : World) (i : Nat) : Option Ceremony := w.ceremonies[i]?

def put (w : World) (i : Nat) (c : Ceremony) : World :=
  { w with ceremonies := w.ceremonies.set i c }

/-- The ceremony of the field `#ceremony`. -/
def live? (w : World) : Option (Nat × Ceremony) := do
  let i ← w.current
  let c ← w.ceremony? i
  pure (i, c)

/-- `_ceremonyIsActive`. -/
def ceremonyIsActive (w : World) : Bool :=
  match w.live? with
  | none => false
  | some (_, c) =>
    decide (c.state ≠ .failed ∧ c.state ≠ .expired ∧ c.state ≠ .cancelled ∧ c.state ≠ .confirmed)

/-- The guard of `startCeremony`. -/
def mayStart (w : World) : Bool :=
  match w.live? with
  | none => true
  | some (_, c) => decide (c.state = .failed ∨ c.state = .expired ∨ c.state = .cancelled)

/-- `startCeremony`, up to `await approver.start()`. -/
def startCeremony (w : World) : World :=
  if w.mayStart then { w with ceremonies := w.ceremonies ++ [Ceremony.fresh] } else w

/-- `approveCeremony`. -/
def approveCeremony (w : World) (newDeviceId : String) : World :=
  match w.live? with
  | some (i, c) =>
    if c.state = .pending ∧ c.armed ∧ newDeviceId = c.newDeviceId then
      w.put i { c with
        armed := false
        answer := some .done }
    else w
  | none => w

/-- `cancelCeremony`. -/
def cancelCeremony (w : World) : World :=
  match w.live? with
  | some (i, c) => w.put i c.cancelled
  | none => w

/-- `recoverNow`, up to the first `await` of the sweep. -/
def recoverNow (w : World) (clock : Nat) : World :=
  if w.sweep.isSome || w.ceremonyIsActive then w else { w with sweep := some (Sweep.begin clock) }

/-- The approver of a ceremony takes a step. -/
def approverMoves (w : World) (i : Nat) (m : Move) : World :=
  match w.ceremony? i with
  | some c =>
    if c.answer.isSome then w
    else { w.put i (c.moves m) with issued := c.publishes m ++ w.issued }
  | none => w

/-- What a ceremony awaits is carried out. -/
def ceremonySettles (w : World) (i : Nat) (reply : Reply) : World :=
  match w.ceremony? i with
  | some c =>
    match c.call?, c.answer with
    | some call, none =>
      let (next, answer) := w.perform call reply
      next.put i { c with answer := some answer }
    | _, _ => w
  | none => w

/-- A ceremony goes on. It becomes the field `#ceremony` when its approver has started. -/
def ceremonyGoes (w : World) (i : Nat) : World :=
  match w.ceremony? i with
  | some c =>
    match c.answer with
    | some answer =>
      let next := w.put i (c.resume answer)
      if c.pc = .starting ∧ answer = .done then { next with current := some i } else next
    | none => w
  | none => w

/-- What the sweep awaits is carried out. -/
def sweepSettles (w : World) (reply : Reply) : World :=
  match w.sweep with
  | some s =>
    match s.answer with
    | none =>
      let (next, answer) := w.perform s.call? reply
      { next with sweep := some { s with answer := some answer } }
    | some _ => w
  | none => w

/-- The sweep goes on. -/
def sweepGoes (w : World) (clock : Nat) : World :=
  match w.sweep with
  | some s =>
    match s.answer with
    | some answer =>
      let next := s.resume clock answer
      { w with
        sweep := next
        issued := Sweep.publishes next ++ w.issued }
    | none => w
  | none => w

end World

/-- One step: a call of the service, a step of an approver, an awaited call that is carried
out, code that goes on, a crash, or the home acting for another device. -/
inductive Event where
  | start
  | approve (newDeviceId : String)
  | cancel
  | recoverNow (clock : Nat)
  | approver (i : Nat) (m : Move)
  | ceremonySettles (i : Nat) (reply : Reply)
  | ceremonyGoes (i : Nat)
  | sweepSettles (reply : Reply)
  | sweepGoes (clock : Nat)
  | crash
  | homeAdds (deviceId certId : String)
  | homeRevokes (certId : String)

namespace World

def step (w : World) : Event → World
  | .start => w.startCeremony
  | .approve newDeviceId => w.approveCeremony newDeviceId
  | .cancel => w.cancelCeremony
  | .recoverNow clock => w.recoverNow clock
  | .approver i m => w.approverMoves i m
  | .ceremonySettles i reply => w.ceremonySettles i reply
  | .ceremonyGoes i => w.ceremonyGoes i
  | .sweepSettles reply => w.sweepSettles reply
  | .sweepGoes clock => w.sweepGoes clock
  | .crash => { w with
      ceremonies := []
      current := none
      sweep := none }
  | .homeAdds deviceId certId => { w with added := (deviceId, certId) :: w.added }
  | .homeRevokes certId => { w with revoked := certId :: w.revoked }

/-- The approver keeps to its contract in this step. -/
def ApproverFollows (w : World) : Event → Prop
  | .approver i m => ∀ c ∈ w.ceremony? i, Follows c m
  | _ => True

instance (w : World) : (e : Event) → Decidable (w.ApproverFollows e)
  | .approver i m => inferInstanceAs (Decidable (∀ c ∈ w.ceremony? i, Follows c m))
  | .start | .approve _ | .cancel | .recoverNow _ | .ceremonySettles _ _ | .ceremonyGoes _
  | .sweepSettles _ | .sweepGoes _ | .crash | .homeAdds _ _ | .homeRevokes _ => isTrue trivial

/-! ### What each step can do -/

section Frame

variable (w : World) (i : Nat) (c : Ceremony) (call : Call) (reply : Reply)

@[simp] theorem put_journal : (w.put i c).journal = w.journal := rfl
@[simp] theorem put_added : (w.put i c).added = w.added := rfl
@[simp] theorem put_revoked : (w.put i c).revoked = w.revoked := rfl
@[simp] theorem put_issued : (w.put i c).issued = w.issued := rfl
@[simp] theorem put_current : (w.put i c).current = w.current := rfl
@[simp] theorem put_sweep : (w.put i c).sweep = w.sweep := rfl

/-- A call that is carried out either takes effect or changes nothing but, where the home
binds another certificate, what the home committed. -/
theorem perform_cases :
    (w.perform call reply).1 = w ∨ (w.perform call reply).1 = w.effect call ∨
    ∃ leaf, (w.perform call reply).1 = { w with added := leaf :: w.added } := by
  cases reply with
  | bound certId =>
    cases call with
    | deviceAdd deviceId _ => exact .inr (.inr ⟨(deviceId, certId), rfl⟩)
    | _ => exact .inl rfl
  | ok => exact .inr (.inl rfl)
  | threwLate => exact .inr (.inl rfl)
  | _ => exact .inl rfl

@[simp] theorem effect_ceremonies : (w.effect call).ceremonies = w.ceremonies := by
  cases call <;> rfl

@[simp] theorem effect_issued : (w.effect call).issued = w.issued := by cases call <;> rfl

@[simp] theorem effect_current : (w.effect call).current = w.current := by cases call <;> rfl

@[simp] theorem effect_sweep : (w.effect call).sweep = w.sweep := by cases call <;> rfl

theorem effect_added : w.added ⊆ (w.effect call).added := by
  cases call with
  | deviceAdd deviceId certId => exact List.subset_cons_self _ _
  | _ => exact List.Subset.refl _

theorem effect_revoked : w.revoked ⊆ (w.effect call).revoked := by
  cases call with
  | deviceRevoke deviceId certId => exact List.subset_cons_self _ _
  | _ => exact List.Subset.refl _

@[simp] theorem perform_ceremonies : (w.perform call reply).1.ceremonies = w.ceremonies := by
  obtain h | h | ⟨leaf, h⟩ := perform_cases w call reply
  · rw [h]
  · rw [h, effect_ceremonies]
  · rw [h]

@[simp] theorem perform_issued : (w.perform call reply).1.issued = w.issued := by
  obtain h | h | ⟨leaf, h⟩ := perform_cases w call reply
  · rw [h]
  · rw [h, effect_issued]
  · rw [h]

@[simp] theorem perform_current : (w.perform call reply).1.current = w.current := by
  obtain h | h | ⟨leaf, h⟩ := perform_cases w call reply
  · rw [h]
  · rw [h, effect_current]
  · rw [h]

@[simp] theorem perform_sweep : (w.perform call reply).1.sweep = w.sweep := by
  obtain h | h | ⟨leaf, h⟩ := perform_cases w call reply
  · rw [h]
  · rw [h, effect_sweep]
  · rw [h]

/-- The home forgets no registration. -/
theorem perform_added : w.added ⊆ (w.perform call reply).1.added := by
  obtain h | h | ⟨leaf, h⟩ := perform_cases w call reply
  · rw [h]; exact List.Subset.refl _
  · rw [h]; exact effect_added w call
  · rw [h]; exact List.subset_cons_self _ _

/-- The home forgets no revocation. -/
theorem perform_revoked : w.revoked ⊆ (w.perform call reply).1.revoked := by
  obtain h | h | ⟨leaf, h⟩ := perform_cases w call reply
  · rw [h]; exact List.Subset.refl _
  · rw [h]; exact effect_revoked w call
  · rw [h]; exact List.Subset.refl _

/-- Only a call that takes effect touches the journal. -/
theorem perform_journal :
    (w.perform call reply).1.journal = w.journal ∨
    reply.takesEffect = true ∧ (w.perform call reply).1.journal = (w.effect call).journal := by
  cases reply with
  | ok => exact .inr ⟨rfl, rfl⟩
  | threwLate => exact .inr ⟨rfl, rfl⟩
  | bound certId => cases call <;> exact .inl rfl
  | _ => exact .inl rfl

variable {w reply}

/-- A home that answers with a registration has committed it. -/
theorem perform_committed {deviceId certId bound : String}
    (h : (w.perform (.deviceAdd deviceId certId) reply).2 = .committed bound) :
    (deviceId, bound) ∈ (w.perform (.deviceAdd deviceId certId) reply).1.added := by
  cases reply with
  | ok => rw [← Answer.committed.inj h]; exact List.mem_cons_self
  | bound certId => rw [← Answer.committed.inj h]; exact List.mem_cons_self
  | _ => exact absurd h (by simp [perform])

/-- A read that answers at all answers with what the journal holds. -/
theorem perform_row {deviceId : String} {row : Option PendingCeremonyRecord}
    (h : (w.perform (.get deviceId) reply).2 = .row row) :
    reply = .ok ∧ w.journal.get? deviceId = row := by
  cases reply with
  | ok => exact ⟨rfl, Answer.row.inj h⟩
  | _ => exact absurd h (by simp [perform])

/-- A home that answers at all answers with what it has revoked. -/
theorem perform_revokedCertIds {certIds : List String}
    (h : (w.perform .getAuthorityState reply).2 = .revoked certIds) : w.revoked = certIds := by
  cases reply with
  | ok => exact Answer.revoked.inj h
  | _ => exact absurd h (by simp [perform])

theorem perform_rejected (h : (w.perform call reply).2 = .rejected) : reply = .rejected := by
  cases reply with
  | rejected => rfl
  | ok => cases call <;> exact absurd h (by simp [perform, answer])
  | bound certId => cases call <;> exact absurd h (by simp [perform])
  | _ => exact absurd h (by simp [perform])

end Frame

theorem ceremony?_put {w : World} {i j : Nat} {c c' : Ceremony}
    (h : (w.put i c).ceremony? j = some c') :
    (j = i ∧ c' = c) ∨ (j ≠ i ∧ w.ceremony? j = some c') := by
  have h' : (w.ceremonies.set i c)[j]? = some c' := h
  rw [List.getElem?_set] at h'
  by_cases hij : i = j
  · rw [if_pos hij] at h'
    split at h'
    · exact .inl ⟨hij.symm, (Option.some.inj h').symm⟩
    · exact absurd h' (by simp)
  · rw [if_neg hij] at h'
    exact .inr ⟨fun h => hij h.symm, h'⟩

theorem live?_eq {w : World} {i : Nat} {c : Ceremony} (h : w.live? = some (i, c)) :
    w.current = some i ∧ w.ceremony? i = some c := by
  rw [live?] at h
  cases hcurrent : w.current with
  | none => rw [hcurrent] at h; exact absurd h (by simp)
  | some k =>
    rw [hcurrent] at h
    cases hc : w.ceremony? k with
    | none => simp [hc] at h
    | some c' =>
      have hpair : k = i ∧ c' = c := by simpa [hc] using h
      exact ⟨by rw [hpair.1], by rw [← hpair.1, hc, hpair.2]⟩

/-- A call of the service changes the ceremony it is about, and nothing else. -/
theorem approve_cases (w : World) (newDeviceId : String) :
    w.approveCeremony newDeviceId = w ∨
    ∃ i c, w.live? = some (i, c) ∧
      (c.state = .pending ∧ c.armed = true ∧ newDeviceId = c.newDeviceId) ∧
      w.approveCeremony newDeviceId =
        w.put i { c with
          armed := false
          answer := some .done } := by
  rw [approveCeremony]
  split
  · rename_i i c hlive
    split
    · rename_i hguard
      exact .inr ⟨i, c, hlive, hguard, rfl⟩
    · exact .inl rfl
  · exact .inl rfl

theorem cancel_cases (w : World) :
    w.cancelCeremony = w ∨
    ∃ i c, w.live? = some (i, c) ∧ w.cancelCeremony = w.put i c.cancelled := by
  rw [cancelCeremony]
  split
  · rename_i i c hlive
    exact .inr ⟨i, c, hlive, rfl⟩
  · exact .inl rfl

theorem approverMoves_cases (w : World) (i : Nat) (m : Move) :
    w.approverMoves i m = w ∨
    ∃ c, w.ceremony? i = some c ∧ c.answer = none ∧
      w.approverMoves i m = { w.put i (c.moves m) with issued := c.publishes m ++ w.issued } := by
  rw [approverMoves]
  split
  · rename_i c hc
    split
    · exact .inl rfl
    · rename_i hanswer
      exact .inr ⟨c, hc, by simpa using hanswer, rfl⟩
  · exact .inl rfl

theorem ceremonySettles_cases (w : World) (i : Nat) (reply : Reply) :
    w.ceremonySettles i reply = w ∨
    ∃ c call, w.ceremony? i = some c ∧ c.call? = some call ∧ c.answer = none ∧
      w.ceremonySettles i reply =
        (w.perform call reply).1.put i
          { c with answer := some (w.perform call reply).2 } := by
  rw [ceremonySettles]
  split
  · rename_i c hc
    split
    · rename_i call hcall hanswer
      exact .inr ⟨c, call, hc, hcall, hanswer, rfl⟩
    · exact .inl rfl
  · exact .inl rfl

theorem ceremonyGoes_cases (w : World) (i : Nat) :
    w.ceremonyGoes i = w ∨
    ∃ c a, w.ceremony? i = some c ∧ c.answer = some a ∧
      w.ceremonyGoes i = { w.put i (c.resume a) with
        current := if c.pc = .starting ∧ a = .done then some i else w.current } := by
  rw [ceremonyGoes]
  split
  · rename_i c hc
    split
    · rename_i a ha
      refine .inr ⟨c, a, hc, ha, ?_⟩
      by_cases hstarts : c.pc = .starting ∧ a = .done
      · rw [if_pos hstarts, if_pos hstarts]
      · rw [if_neg hstarts, if_neg hstarts]
        rfl
    · exact .inl rfl
  · exact .inl rfl

theorem sweepSettles_cases (w : World) (reply : Reply) :
    w.sweepSettles reply = w ∨
    ∃ s, w.sweep = some s ∧ s.answer = none ∧
      w.sweepSettles reply = { (w.perform s.call? reply).1 with
        sweep := some { s with answer := some (w.perform s.call? reply).2 } } := by
  rw [sweepSettles]
  split
  · rename_i s hs
    split
    · rename_i hanswer
      exact .inr ⟨s, hs, hanswer, rfl⟩
    · exact .inl rfl
  · exact .inl rfl

theorem sweepGoes_cases (w : World) (clock : Nat) :
    w.sweepGoes clock = w ∨
    ∃ s a, w.sweep = some s ∧ s.answer = some a ∧
      w.sweepGoes clock = { w with
        sweep := s.resume clock a
        issued := Sweep.publishes (s.resume clock a) ++ w.issued } := by
  rw [sweepGoes]
  split
  · rename_i s hs
    split
    · rename_i a ha
      exact .inr ⟨s, a, hs, ha, rfl⟩
    · exact .inl rfl
  · exact .inl rfl

end World

/-! ## Two runs -/

/-- A ceremony whose approver journals the registration of a phone. -/
def journals : List Event :=
  [.start, .approver 0 .started, .ceremonyGoes 0, .approver 0 (.requested "phone"),
    .ceremonyGoes 0, .approve "phone", .ceremonyGoes 0,
    .approver 0 (.persistPending ⟨"phone", "leaf", .pending, 100⟩), .ceremonySettles 0 .ok,
    .ceremonyGoes 0, .ceremonySettles 0 .ok, .ceremonyGoes 0]

/-- A sweep up to its first row. -/
def sweeps (clock : Nat) : List Event :=
  [.recoverNow clock, .sweepSettles .ok, .sweepGoes clock, .sweepSettles .ok, .sweepGoes clock]

end RezChat.Devices
