/-
Account mutations (`services/ServerAccountMutationService.js`).

A device is added or revoked by a signed mutation that the home commits, in the revision that the
mutation expects; if the home has moved on, the mutation is built and submitted again. What
follows a commit is propagation: the home's obligation to publish is drained, and the device set
is published anew to every peer. What goes wrong there is to be reported along with the result and
not thrown, since a caller takes what is thrown for a mutation that did not happen.

What the home and the local parts answer is the environment. Of a submission whose answer is
lost, it is part of the environment whether the home had committed it.
-/
import RezChat.Inbox.Frame

set_option autoImplicit false

namespace RezChat.Devices

open Inbox (trim)

inductive MutationAction where
  | deviceAdd
  | deviceRevoke

inductive MutationSigner where
  | account
  | device

/-- What a caller of `submitMutation` asks for. -/
structure MutationRequest (τ : Type) where
  action : MutationAction
  target : τ
  signWith : MutationSigner

structure AccountDeviceMutation (τ : Type) where
  opId : String
  expectedRevision : Int
  request : MutationRequest τ
  nowMs : Int

/-- The serializer's result: the revision, where it is a number, and the rest. -/
structure MutationResult (ρ : Type) where
  revision : Option Int
  body : ρ

/-- What a submission comes to. If it throws, the home may have committed it all the same. -/
inductive SubmitAnswer (ρ : Type) where
  | threw (committed : Option (MutationResult ρ))
  | nothing
  | stale
  | committed (result : MutationResult ρ)

/-- What draining the publication comes to. -/
inductive DrainAnswer where
  | threw
  | nothing
  | outcome (enabled : Bool) (stopped : String) (publishedEpochs : List Int)

/-- The devices of the account that the home serves. -/
inductive DeviceSetAnswer (δ : Type) where
  | unavailable
  | threw
  | devices (devices : List δ)

/-- What is around a submission. What a member answers may depend on the attempt, and on what it
is handed. -/
structure MutationEnv (τ ρ δ : Type) where
  enabled : Bool
  ownerAccountId : String
  clockMs : Nat → Int
  getAuthorityState : Nat → Option (Option Int)
  buildAccountDeviceMutation : Nat → AccountDeviceMutation τ → Bool
  submitDeviceMutation : Nat → AccountDeviceMutation τ → SubmitAnswer ρ
  drain : DrainAnswer
  durableRecords : Bool
  accountDeviceSet : DeviceSetAnswer δ
  listByOwner : Option (List (Option String))
  republish : String → Int → Option (List δ) → Except String Unit

def maxStaleRetries : Nat := 3

/-! ## Propagation -/

inductive PublicationReport where
  | failed
  | noOutcome
  | unreachable
  | published
  | deferred

/-- `#publishAuthorityState`. It reports, and throws nothing. -/
def publishAuthorityState : DrainAnswer → PublicationReport
  | .threw => .failed
  | .nothing => .noOutcome
  | .outcome enabled stopped publishedEpochs =>
    if enabled = false ∨ stopped = "outbox-unavailable" then .unreachable
    else if publishedEpochs ≠ [] then .published
    else .deferred

structure Propagation where
  peersPublished : Nat
  peersFailed : List (String × String)

namespace MutationEnv

variable {τ ρ δ : Type} (env : MutationEnv τ ρ δ)

/-- `#accountDeviceSetFromHome`. -/
def accountDeviceSetFromHome : Option (List δ) :=
  match env.accountDeviceSet with
  | .devices (d :: devices) => some (d :: devices)
  | _ => none

/-- One link of the loop of `#propagate`: each peer once, and each on its own. -/
def republishLink (revision : Int) (s : List String × Propagation) (link : Option String) :
    List String × Propagation :=
  let peer := (link.map trim).getD ""
  if peer = "" ∨ peer ∈ s.1 then s
  else
    (peer :: s.1,
      match env.republish peer revision env.accountDeviceSetFromHome with
      | .ok () => { s.2 with peersPublished := s.2.peersPublished + 1 }
      | .error reason => { s.2 with peersFailed := s.2.peersFailed ++ [(peer, reason)] })

/-- The revision that the device sets are published at. -/
def revisionOf (result : MutationResult ρ) : Int :=
  match result.revision with
  | some revision => if 1 ≤ revision then revision else 1
  | none => 1

/-- `#propagate`: what it logs of the publication, and what it returns. Nothing is returned where
it throws. -/
def propagate (result : MutationResult ρ) : PublicationReport × Option Propagation :=
  (publishAuthorityState env.drain,
    if env.durableRecords = false then none
    else
      match env.listByOwner with
      | none => none
      | some links => some (links.foldl (env.republishLink (revisionOf result)) ([], ⟨0, []⟩)).2)

/-! ## Submitting -/

/-- What the home committed, and how the call ended. -/
inductive Submitted (ρ : Type) where
  | disabled
  | threw
  | returned (result : MutationResult ρ) (propagation : Propagation)

/-- `#newOpId`, at its `n`th call. -/
def newOpId (n : Nat) : String :=
  "opid:" ++ (if env.ownerAccountId = "" then "anon" else env.ownerAccountId) ++ ":" ++
    toString (env.clockMs n) ++ ":" ++ toString n

/-- The mutation that the attempt builds on what the home says of its revision. -/
def mutationAt (n : Nat) (request : MutationRequest τ) (epoch : Option Int) :
    AccountDeviceMutation τ :=
  { opId := env.newOpId n
    expectedRevision := epoch.getD 0
    request := request
    nowMs := env.clockMs n }

/-- One pass of the loop. What throws before the submission has committed nothing. -/
def attempt (request : MutationRequest τ) (n : Nat) : SubmitAnswer ρ :=
  match env.getAuthorityState n with
  | none => .threw none
  | some epoch =>
    let mutation := env.mutationAt n request epoch
    if env.buildAccountDeviceMutation n mutation = false then .threw none
    else env.submitDeviceMutation n mutation

/-- What follows a commit. -/
def afterCommit (result : MutationResult ρ) : Submitted ρ :=
  match (env.propagate result).2 with
  | some propagation => .returned result propagation
  | none => .threw

/-- The loop of `submitMutation` with so many passes left. The first component is what the home
has committed. -/
def submitLoop (request : MutationRequest τ) : Nat → Nat → List (MutationResult ρ) × Submitted ρ
  | _, 0 => ([], .threw)
  | n, left + 1 =>
    match env.attempt request n with
    | .threw committed => (committed.toList, .threw)
    | .nothing => ([], .threw)
    | .stale => submitLoop request (n + 1) left
    | .committed result => ([result], env.afterCommit result)

/-- `submitMutation`, with `opCounter` calls of `#newOpId` before. -/
def submitMutation (opCounter : Nat) (request : MutationRequest τ) :
    List (MutationResult ρ) × Submitted ρ :=
  if env.enabled = false then ([], .disabled)
  else env.submitLoop request (opCounter + 1) maxStaleRetries

/-! ## The verdict of the home -/

/-- A call that throws has committed nothing, and one that has committed returns the result. -/
structure HonestVerdict (s : List (MutationResult ρ) × Submitted ρ) : Prop where
  threw : s.2 = .threw → s.1 = []
  committed : ∀ result ∈ s.1, ∃ propagation, s.2 = .returned result propagation

/-- What the first attempt that the home does not answer as stale comes to. -/
def decisive (request : MutationRequest τ) (n left : Nat) : Option (SubmitAnswer ρ) :=
  ((List.range' n left).map (env.attempt request)).find? fun
    | .stale => false
    | _ => true

/-- The parts that propagation cannot do without are there. -/
def CanPropagate : Prop := env.durableRecords = true ∧ env.listByOwner.isSome = true

/-- The answer to a submission that the home committed is not lost, and after a commit there is
what propagation needs. -/
def VerdictArrives (request : MutationRequest τ) (n left : Nat) : Prop :=
  (∀ result, env.decisive request n left ≠ some (.threw (some result))) ∧
    ∀ result, env.decisive request n left = some (.committed result) → env.CanPropagate

variable {env} {request : MutationRequest τ}

/-- Propagation throws exactly where a part is missing, whatever fails for a peer. -/
theorem propagate_eq_none_iff (result : MutationResult ρ) :
    (env.propagate result).2 = none ↔ ¬env.CanPropagate := by
  rw [propagate, CanPropagate]
  cases env.durableRecords with
  | false => simp
  | true =>
    cases env.listByOwner with
    | none => simp
    | some links => simp

theorem decisive_succ (n left : Nat) :
    env.decisive request n (left + 1) =
      match env.attempt request n with
      | .stale => env.decisive request (n + 1) left
      | answer => some answer := by
  rw [decisive, List.range'_succ, List.map_cons, List.find?_cons]
  cases env.attempt request n <;> rfl

theorem honest_nothing : HonestVerdict (([], .threw) : List (MutationResult ρ) × Submitted ρ) :=
  ⟨fun _ => rfl, fun _ h => by cases h⟩

theorem afterCommit_honest_iff (result : MutationResult ρ) :
    HonestVerdict ([result], env.afterCommit result) ↔ env.CanPropagate := by
  rw [afterCommit]
  cases hpropagate : (env.propagate result).2 with
  | none =>
    refine iff_of_false (fun h => ?_) ((propagate_eq_none_iff result).1 hpropagate)
    cases h.threw rfl
  | some propagation =>
    refine iff_of_true ⟨fun h => (by cases h), fun result' hmem => ?_⟩ ?_
    · rw [List.mem_singleton.1 hmem]
      exact ⟨propagation, rfl⟩
    · by_contra hmissing
      rw [(propagate_eq_none_iff result).2 hmissing] at hpropagate
      cases hpropagate

/-- By induction on the passes that are left: a stale answer commits nothing and says nothing. -/
theorem submitLoop_honest_iff : ∀ left n : Nat,
    HonestVerdict (env.submitLoop request n left) ↔ env.VerdictArrives request n left
  | 0, n => by
    refine iff_of_true honest_nothing ⟨fun result h => ?_, fun result h => ?_⟩ <;> cases h
  | left + 1, n => by
    rw [submitLoop, VerdictArrives, decisive_succ]
    cases hanswer : env.attempt request n with
    | threw committed =>
      cases committed with
      | none =>
        refine iff_of_true honest_nothing ⟨fun result h => ?_, fun result h => ?_⟩ <;> cases h
      | some result =>
        refine iff_of_false (fun h => ?_) fun h => h.1 result rfl
        cases h.threw rfl
    | nothing =>
      refine iff_of_true honest_nothing ⟨fun result h => ?_, fun result h => ?_⟩ <;> cases h
    | stale => exact submitLoop_honest_iff left (n + 1)
    | committed result =>
      refine (afterCommit_honest_iff result).trans ⟨fun h => ⟨fun _ heq => (by cases heq), ?_⟩, ?_⟩
      · exact fun _ _ => h
      · exact fun h => h.2 result rfl

/-- **The verdict of the home is reported** exactly if its answer arrives, and propagation finds
the durable records and the peer links. -/
theorem submitMutation_honest_iff (env : MutationEnv τ ρ δ) (opCounter : Nat)
    (request : MutationRequest τ) :
    HonestVerdict (env.submitMutation opCounter request) ↔
      (env.enabled = true → env.VerdictArrives request (opCounter + 1) maxStaleRetries) := by
  rw [submitMutation]
  by_cases henabled : env.enabled = false
  · rw [if_pos henabled, henabled]
    refine iff_of_true ⟨fun h => (by cases h), fun _ h => by cases h⟩ fun h => ?_
    cases h
  · rw [if_neg henabled, submitLoop_honest_iff]
    rw [Bool.not_eq_false] at henabled
    exact ⟨fun h _ => h, fun h => h henabled⟩

/-- The home commits a revocation, and the links of the account cannot be listed. -/
def linksUnlisted : MutationEnv String Unit String where
  enabled := true
  ownerAccountId := "ann"
  clockMs _ := 1000
  getAuthorityState _ := some (some 1)
  buildAccountDeviceMutation _ _ := true
  submitDeviceMutation _ _ := .committed ⟨some 2, ()⟩
  drain := .outcome true "nothing-pending" [2]
  durableRecords := true
  accountDeviceSet := .unavailable
  listByOwner := none
  republish _ _ _ := .ok ()

theorem committed_yet_threw :
    ¬HonestVerdict (linksUnlisted.submitMutation 0 ⟨.deviceRevoke, "phone", .account⟩) := by
  intro h
  cases h.threw rfl

end MutationEnv

end RezChat.Devices
