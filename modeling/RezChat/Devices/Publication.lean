/-
The publication of the account's authority state
(`services/ServerAuthorityPublicationService.js`).

The home owes its peers a publication for every change of the account's devices, and only a device
with the account key can sign it. Such a device takes the account's one lease, has the home freeze
the epoch that is to be published, builds the record for exactly that epoch, and completes the
lease with it; if the head has moved on it gives the lease back and claims again.

What the outbox and the other parts answer is the environment. What a drain does is its calls of
the outbox, in order and each with its answer, and of the leases that it was handed it holds those
that it has not been answered to have completed, released or failed, and that it was not told are
gone.
-/
import Mathlib.Data.List.Basic

set_option autoImplicit false

namespace RezChat.Devices

open Option List Nat

/-- The answer to `claim`, as the drain reads it. -/
inductive ClaimAnswer (τ : Type) where
  | threw (code : String)
  | awaitingRootSignature
  | notLeased
  | leased (token : τ)

inductive PrepareAnswer where
  | threw
  | refused
  | prepared (headEpoch : Int)

inductive CompleteAnswer where
  | threw
  | refused
  | completed (doneThroughEpoch : Int)

structure AuthorityState where
  epoch : Int
  revokedCertIds : List String
  minValidIssuedAtMs : Int

/-- What `buildAccountAuthorityStateRecord` is asked for. -/
structure AuthorityStateRequest where
  epoch : Int
  revokedCertIds : List String
  minValidIssuedAtMs : Int
  nowMs : Int

/-- What is around a drain: the answers in its `n`th cycle. -/
structure PublicationEnv (τ ρ : Type) where
  enabled : Bool
  clockMs : Nat → Int
  claim : Nat → ClaimAnswer τ
  prepare : Nat → τ → PrepareAnswer
  getAuthorityState : Nat → Option AuthorityState
  buildAccountAuthorityStateRecord : Nat → AuthorityStateRequest → Option ρ
  release : Nat → τ → Bool
  complete : Nat → τ → ρ → CompleteAnswer
  fail : Nat → τ → Bool

/-- A call of the outbox, and what came of it. Of `release` and `fail` it matters only whether
they returned. -/
inductive OutboxCall (τ ρ : Type) where
  | claim (answer : ClaimAnswer τ)
  | prepare (leaseToken : τ) (answer : PrepareAnswer)
  | release (leaseToken : τ) (returned : Bool)
  | complete (leaseToken : τ) (record : ρ) (answer : CompleteAnswer)
  | fail (leaseToken : τ) (returned : Bool)

/-- What `#publishUnderLease` returns. -/
structure LeaseOutcome where
  stop : Bool
  reason : String
  publishedEpoch : Option Int

/-- What `drainPublications` returns. -/
structure DrainOutcome where
  enabled : Bool
  cycles : Nat
  publishedEpochs : List Int
  stopped : String

def defaultMaxCycles : Nat := 4

/-- The cycles that one call makes at most. -/
def cycleLimit : Option Int → Nat
  | some maxCycles => if 0 < maxCycles then maxCycles.toNat else defaultMaxCycles
  | none => defaultMaxCycles

namespace PublicationEnv

variable {τ ρ : Type} (env : PublicationEnv τ ρ)

/-- The guarded part of `#publishUnderLease`: its calls, and what it returns unless it throws. -/
def publishFrozen (n : Nat) (leaseToken : τ) (frozenEpoch : Int) :
    List (OutboxCall τ ρ) × Option LeaseOutcome :=
  match env.getAuthorityState n with
  | none => ([], none)
  | some state =>
    if state.epoch < frozenEpoch then ([], none)
    else if state.epoch ≠ frozenEpoch then
      ([.release leaseToken (env.release n leaseToken)],
        if env.release n leaseToken = true then some ⟨false, "head-advanced", none⟩ else none)
    else
      match env.buildAccountAuthorityStateRecord n
        ⟨frozenEpoch, state.revokedCertIds, state.minValidIssuedAtMs, env.clockMs n⟩ with
      | none => ([], none)
      | some record =>
        ([.complete leaseToken record (env.complete n leaseToken record)],
          match env.complete n leaseToken record with
          | .threw => none
          | .refused => some ⟨true, "lease-lost", none⟩
          | .completed doneThroughEpoch => some ⟨false, "published", some doneThroughEpoch⟩)

/-- `#publishUnderLease`. What the guarded part throws is reported and thrown on; what `prepare`
throws is thrown on. -/
def publishUnderLease (n : Nat) (leaseToken : τ) :
    List (OutboxCall τ ρ) × Option LeaseOutcome :=
  match env.prepare n leaseToken with
  | .threw => ([.prepare leaseToken .threw], none)
  | .refused => ([.prepare leaseToken .refused], some ⟨true, "lease-lost", none⟩)
  | .prepared headEpoch =>
    match env.publishFrozen n leaseToken headEpoch with
    | (calls, some outcome) => (.prepare leaseToken (.prepared headEpoch) :: calls, some outcome)
    | (calls, none) =>
      -- `#reportFailedAttempt`, which throws nothing itself
      (.prepare leaseToken (.prepared headEpoch) ::
        (calls ++ [.fail leaseToken (env.fail n leaseToken)]), none)

/-- The loop of `drainPublications`, with so many cycles left and so many made. -/
def drainLoop : Nat → Nat → List Int → List (OutboxCall τ ρ) × Option DrainOutcome
  | 0, cycles, publishedEpochs => ([], some ⟨true, cycles, publishedEpochs, "max-cycles"⟩)
  | left + 1, cycles, publishedEpochs =>
    match env.claim (cycles + 1) with
    | .threw code =>
      ([.claim (.threw code)],
        if code = "SERVICE_UNAVAILABLE" then
          some ⟨true, cycles + 1, publishedEpochs, "outbox-unavailable"⟩
        else none)
    | .awaitingRootSignature =>
      ([.claim .awaitingRootSignature],
        some ⟨true, cycles + 1, publishedEpochs, "awaiting-root-signature"⟩)
    | .notLeased =>
      ([.claim .notLeased], some ⟨true, cycles + 1, publishedEpochs, "nothing-pending"⟩)
    | .leased token =>
      match env.publishUnderLease (cycles + 1) token with
      | (calls, none) => (.claim (.leased token) :: calls, none)
      | (calls, some outcome) =>
        let published := publishedEpochs ++ outcome.publishedEpoch.toList
        if outcome.stop = true then
          (.claim (.leased token) :: calls, some ⟨true, cycles + 1, published, outcome.reason⟩)
        else
          let rest := drainLoop left (cycles + 1) published
          (.claim (.leased token) :: (calls ++ rest.1), rest.2)

/-- `drainPublications`: its calls of the outbox, and what it returns unless it throws. -/
def drainPublications (maxCycles : Option Int) : List (OutboxCall τ ρ) × Option DrainOutcome :=
  if env.enabled = false then ([], some ⟨false, 0, [], "disabled"⟩)
  else env.drainLoop (cycleLimit maxCycles) 0 []

end PublicationEnv

/-! ## The leases that a drain holds -/

section Leases

variable {τ ρ : Type}

/-- Every record is submitted under the lease that was last prepared, and is one of the epoch that
was frozen for it. -/
def PublishesFrozen (epochOf : ρ → Int) : Option (τ × Int) → List (OutboxCall τ ρ) → Prop
  | _, [] => True
  | _, .claim _ :: calls => PublishesFrozen epochOf none calls
  | _, .prepare token (.prepared headEpoch) :: calls =>
    PublishesFrozen epochOf (some (token, headEpoch)) calls
  | frozen, .complete token record _ :: calls =>
    frozen = some (token, epochOf record) ∧ PublishesFrozen epochOf frozen calls
  | frozen, _ :: calls => PublishesFrozen epochOf frozen calls

/-- The cycles of a drain are its claims. -/
def claims (calls : List (OutboxCall τ ρ)) : Nat :=
  calls.countP fun
    | .claim _ => true
    | _ => false

theorem claims_claim (answer : ClaimAnswer τ) (calls : List (OutboxCall τ ρ)) :
    claims (.claim answer :: calls) = claims calls + 1 := by
  simp [claims]

theorem claims_append (calls calls' : List (OutboxCall τ ρ)) :
    claims (calls ++ calls') = claims calls + claims calls' := countP_append

variable [DecidableEq τ]

/-- A lease is held from the claim that hands it over until the outbox has answered that it is
completed, released or failed, or that it is gone. -/
def heldAfter (held : List τ) : OutboxCall τ ρ → List τ
  | .claim (.leased token) => token :: held
  | .prepare token .refused => held.filter (· ≠ token)
  | .release token true => held.filter (· ≠ token)
  | .complete token _ .refused => held.filter (· ≠ token)
  | .complete token _ (.completed _) => held.filter (· ≠ token)
  | .fail token true => held.filter (· ≠ token)
  | _ => held

/-- What a drain is to do with its leases. -/
structure SettlesLeases (epochOf : ρ → Int) (limit : Nat) (calls : List (OutboxCall τ ρ)) :
    Prop where
  settled : calls.foldl heldAfter [] = []
  frozen : PublishesFrozen epochOf none calls
  bounded : claims calls ≤ limit

end Leases

namespace PublicationEnv

variable {τ ρ : Type} (env : PublicationEnv τ ρ)

/-! ## Where the leases are settled -/

/-- The attempt to publish the frozen epoch fails, by what the environment answers. -/
def AttemptFails (n : Nat) (token : τ) (frozenEpoch : Int) : Prop :=
  match env.getAuthorityState n with
  | none => True
  | some state =>
    state.epoch < frozenEpoch ∨
      frozenEpoch < state.epoch ∧ env.release n token = false ∨
      state.epoch = frozenEpoch ∧
        ∀ record, env.buildAccountAuthorityStateRecord n
          ⟨frozenEpoch, state.revokedCertIds, state.minValidIssuedAtMs, env.clockMs n⟩ =
            some record → env.complete n token record = .threw

/-- The attempt ends without ending the drain: the lease is given back for a newer epoch, or
completed. -/
def AttemptGoesOn (n : Nat) (token : τ) (frozenEpoch : Int) : Prop :=
  ∃ state, env.getAuthorityState n = some state ∧
    (frozenEpoch < state.epoch ∧ env.release n token = true ∨
      state.epoch = frozenEpoch ∧
        ∃ record doneThroughEpoch, env.buildAccountAuthorityStateRecord n
          ⟨frozenEpoch, state.revokedCertIds, state.minValidIssuedAtMs, env.clockMs n⟩ =
            some record ∧ env.complete n token record = .completed doneThroughEpoch)

/-- `prepare` does not throw, and the report of an attempt that fails gets through. -/
def LeaseAnswered (n : Nat) (token : τ) : Prop :=
  env.prepare n token ≠ .threw ∧ ∀ headEpoch, env.prepare n token = .prepared headEpoch →
    env.AttemptFails n token headEpoch → env.fail n token = true

/-- The drain may claim again after the lease. -/
def LeaseGoesOn (n : Nat) (token : τ) : Prop :=
  ∃ headEpoch, env.prepare n token = .prepared headEpoch ∧ env.AttemptGoesOn n token headEpoch

/-- Every lease that is handed over in the cycles after `n`, `left` at most, is answered. -/
def LeasesAnswered : Nat → Nat → Prop
  | 0, _ => True
  | left + 1, n => ∀ token, env.claim (n + 1) = .leased token →
    env.LeaseAnswered (n + 1) token ∧
      (env.LeaseGoesOn (n + 1) token → LeasesAnswered left (n + 1))

/-- The record is one of the epoch it was asked for. -/
def BuildsAsAsked (epochOf : ρ → Int) : Prop :=
  ∀ n request record, env.buildAccountAuthorityStateRecord n request = some record →
    epochOf record = request.epoch

variable {env} {n : Nat} {token : τ} {frozenEpoch : Int}

/-- What the guarded part comes to: it fails, gives the lease back, is told that the lease is
gone, or completes it with a record of the frozen epoch. -/
theorem publishFrozen_cases (env : PublicationEnv τ ρ) (n : Nat) (token : τ) (frozenEpoch : Int) :
    (∃ calls, env.AttemptFails n token frozenEpoch ∧
      env.publishFrozen n token frozenEpoch = (calls, none) ∧
      (calls = [] ∨ calls = [.release token false] ∨
        ∃ request record, env.buildAccountAuthorityStateRecord n request = some record ∧
          request.epoch = frozenEpoch ∧ calls = [.complete token record .threw])) ∨
    (¬env.AttemptFails n token frozenEpoch ∧ env.AttemptGoesOn n token frozenEpoch ∧
      env.publishFrozen n token frozenEpoch =
        ([.release token true], some ⟨false, "head-advanced", none⟩)) ∨
    ∃ request record, env.buildAccountAuthorityStateRecord n request = some record ∧
      request.epoch = frozenEpoch ∧ ¬env.AttemptFails n token frozenEpoch ∧
      ((¬env.AttemptGoesOn n token frozenEpoch ∧ env.publishFrozen n token frozenEpoch =
          ([.complete token record .refused], some ⟨true, "lease-lost", none⟩)) ∨
        ∃ doneThroughEpoch, env.AttemptGoesOn n token frozenEpoch ∧
          env.publishFrozen n token frozenEpoch =
            ([.complete token record (.completed doneThroughEpoch)],
              some ⟨false, "published", some doneThroughEpoch⟩)) := by
  rw [AttemptFails, AttemptGoesOn, publishFrozen]
  cases hstate : env.getAuthorityState n with
  | none => exact .inl ⟨_, trivial, rfl, .inl rfl⟩
  | some state =>
    simp only
    by_cases hbehind : state.epoch < frozenEpoch
    · rw [if_pos hbehind]
      exact .inl ⟨_, .inl hbehind, rfl, .inl rfl⟩
    rw [if_neg hbehind]
    by_cases hadvanced : state.epoch ≠ frozenEpoch
    · rw [if_pos hadvanced]
      have hlater : frozenEpoch < state.epoch := by omega
      cases hrelease : env.release n token with
      | false => exact .inl ⟨_, .inr (.inl ⟨hlater, rfl⟩), rfl, .inr (.inl rfl)⟩
      | true =>
        refine .inr (.inl ⟨?_, ⟨state, rfl, .inl ⟨hlater, rfl⟩⟩, rfl⟩)
        rintro (h | h | h)
        · exact hbehind h
        · cases h.2
        · exact hadvanced h.1
    · rw [if_neg hadvanced]
      have hepoch : state.epoch = frozenEpoch := by omega
      cases hbuilt : env.buildAccountAuthorityStateRecord n
          ⟨frozenEpoch, state.revokedCertIds, state.minValidIssuedAtMs, env.clockMs n⟩ with
      | none =>
        refine .inl ⟨_, .inr (.inr ⟨hepoch, fun record h => ?_⟩), rfl, .inl rfl⟩
        cases h
      | some record =>
        simp only
        cases hcomplete : env.complete n token record with
        | threw =>
          refine .inl ⟨_, .inr (.inr ⟨hepoch, fun record' h => ?_⟩), rfl, .inr (.inr ?_)⟩
          · rw [← some_inj.1 h]
            exact hcomplete
          · exact ⟨_, record, hbuilt, rfl, rfl⟩
        | refused =>
          refine .inr (.inr ⟨_, record, hbuilt, rfl, ?_, .inl ⟨?_, rfl⟩⟩)
          · rintro (h | h | h)
            · exact hbehind h
            · omega
            · rw [h.2 record rfl] at hcomplete
              cases hcomplete
          · rintro ⟨state', hstate', h | h⟩
            · rw [← some_inj.1 hstate'] at h
              omega
            · rw [← some_inj.1 hstate'] at h
              obtain ⟨-, record', done, hrecord, hdone⟩ := h
              rw [hbuilt] at hrecord
              rw [← some_inj.1 hrecord, hcomplete] at hdone
              cases hdone
        | completed done =>
          refine .inr (.inr ⟨_, record, hbuilt, rfl, ?_, .inr ⟨done, ?_, rfl⟩⟩)
          · rintro (h | h | h)
            · exact hbehind h
            · omega
            · rw [h.2 record rfl] at hcomplete
              cases hcomplete
          · exact ⟨state, rfl, .inr ⟨hepoch, record, done, hbuilt, hcomplete⟩⟩

theorem AttemptFails.not_goesOn (h : env.AttemptFails n token frozenEpoch) :
    ¬env.AttemptGoesOn n token frozenEpoch := by
  rintro ⟨state, hstate, hon⟩
  rw [AttemptFails, hstate] at h
  rcases h with h | ⟨h, hrelease⟩ | ⟨h, hthrew⟩
  · omega
  · rcases hon with ⟨-, hreleased⟩ | ⟨heq, -⟩
    · rw [hrelease] at hreleased
      cases hreleased
    · omega
  · rcases hon with ⟨hlater, -⟩ | ⟨-, record, done, hbuilt, hcompleted⟩
    · omega
    · rw [hthrew record hbuilt] at hcompleted
      cases hcompleted

/-! ## One lease -/

section OneLease

variable [DecidableEq τ]

/-- A lease is settled when `#publishUnderLease` returns or throws exactly if it is answered, and
when it returns it is. -/
theorem publishUnderLease_cases (env : PublicationEnv τ ρ) (n : Nat) (token : τ) :
    ((env.publishUnderLease n token).2 = none ∧ ¬env.LeaseGoesOn n token ∧
      ((env.publishUnderLease n token).1.foldl heldAfter [token] = [] ↔
        env.LeaseAnswered n token)) ∨
    ∃ outcome, (env.publishUnderLease n token).2 = some outcome ∧
      (outcome.stop = false ↔ env.LeaseGoesOn n token) ∧ env.LeaseAnswered n token ∧
      (env.publishUnderLease n token).1.foldl heldAfter [token] = [] := by
  have hgone : [token].filter (· ≠ token) = [] := by simp
  rw [publishUnderLease, LeaseAnswered, LeaseGoesOn]
  cases hprepare : env.prepare n token with
  | threw =>
    refine .inl ⟨rfl, by simp, iff_of_false (fun h => ?_) fun h => h.1 rfl⟩
    cases h
  | refused => exact .inr ⟨_, rfl, by simp, by simp, hgone⟩
  | prepared headEpoch =>
    simp only [ne_eq, reduceCtorEq, not_false_eq_true, true_and, PrepareAnswer.prepared.injEq,
      forall_eq', exists_eq_left']
    rcases publishFrozen_cases env n token headEpoch with
      ⟨calls, hfails, heq, hcalls⟩ | ⟨hfails, hon, heq⟩ | ⟨request, record, -, -, hfails, heq⟩
    · -- whatever the attempt had done, it is `fail` that settles the lease
      refine .inl ?_
      rw [heq]
      have hheld : calls.foldl heldAfter [token] = [token] := by
        rcases hcalls with h | h | ⟨request, record, -, -, h⟩ <;> rw [h] <;> rfl
      refine ⟨rfl, hfails.not_goesOn, ?_⟩
      simp only [foldl_cons, foldl_append, heldAfter, hheld, foldl_nil]
      cases hfail : env.fail n token with
      | true => exact iff_of_true hgone fun _ => rfl
      | false =>
        refine iff_of_false (fun h => ?_) fun h => ?_
        · cases h
        · cases h hfails
    · rw [heq]
      exact .inr ⟨_, rfl, iff_of_true rfl hon, fun h => absurd h hfails, hgone⟩
    · rcases heq with ⟨hon, heq⟩ | ⟨done, hon, heq⟩
      · rw [heq]
        refine .inr ⟨_, rfl, iff_of_false (by simp) hon, fun h => absurd h hfails, hgone⟩
      · rw [heq]
        exact .inr ⟨_, rfl, iff_of_true rfl hon, fun h => absurd h hfails, hgone⟩

end OneLease

/-- Under a lease only records of the epoch that was frozen for it are submitted. -/
theorem publishUnderLease_frozen {epochOf : ρ → Int} (hbuilds : env.BuildsAsAsked epochOf)
    (n : Nat) (token : τ) {rest : List (OutboxCall τ ρ)}
    (hrest : ∀ frozen, PublishesFrozen epochOf frozen rest) :
    PublishesFrozen epochOf none ((env.publishUnderLease n token).1 ++ rest) := by
  rw [publishUnderLease]
  cases env.prepare n token with
  | threw => exact hrest none
  | refused => exact hrest none
  | prepared headEpoch =>
    rcases publishFrozen_cases env n token headEpoch with
      ⟨calls, -, heq, hcalls⟩ | ⟨-, -, heq⟩ | ⟨request, record, hbuilt, hepoch, -, heq⟩
    · simp only [heq]
      rcases hcalls with h | h | ⟨request, record, hbuilt, hepoch, h⟩
      · rw [h]
        exact hrest _
      · rw [h]
        exact hrest _
      · rw [h]
        refine ⟨?_, hrest _⟩
        rw [hbuilds n request record hbuilt, hepoch]
    · simp only [heq]
      exact hrest _
    · have hframe : some (token, headEpoch) = some (token, epochOf record) := by
        rw [hbuilds n request record hbuilt, hepoch]
      rcases heq with ⟨-, heq⟩ | ⟨done, -, heq⟩
      · simp only [heq]
        exact ⟨hframe, hrest _⟩
      · simp only [heq]
        exact ⟨hframe, hrest _⟩

/-- Nothing is claimed while a lease is held. -/
theorem claims_publishUnderLease (env : PublicationEnv τ ρ) (n : Nat) (token : τ) :
    claims (env.publishUnderLease n token).1 = 0 := by
  rw [publishUnderLease]
  cases env.prepare n token with
  | threw => rfl
  | refused => rfl
  | prepared headEpoch =>
    rcases publishFrozen_cases env n token headEpoch with
      ⟨calls, -, heq, hcalls⟩ | ⟨-, -, heq⟩ | ⟨request, record, -, -, -, heq⟩
    · simp only [heq]
      rcases hcalls with h | h | ⟨request, record, -, -, h⟩ <;> rw [h] <;> rfl
    · simp only [heq]
      rfl
    · rcases heq with ⟨-, heq⟩ | ⟨done, -, heq⟩ <;> simp only [heq] <;> rfl

/-! ## A drain -/

/-- By induction on the cycles that are left: a drain goes on only after a lease that is
settled. -/
theorem drainLoop_settled_iff [DecidableEq τ] (env : PublicationEnv τ ρ) :
    ∀ (left n : Nat) (publishedEpochs : List Int),
      (env.drainLoop left n publishedEpochs).1.foldl heldAfter [] = [] ↔
        env.LeasesAnswered left n
  | 0, _, _ => iff_of_true rfl trivial
  | left + 1, n, publishedEpochs => by
    rw [drainLoop, LeasesAnswered]
    cases hclaim : env.claim (n + 1) with
    | threw code => exact iff_of_true rfl fun token h => by cases h
    | awaitingRootSignature => exact iff_of_true rfl fun token h => by cases h
    | notLeased => exact iff_of_true rfl fun token h => by cases h
    | leased token =>
      simp only [ClaimAnswer.leased.injEq, forall_eq']
      have hlease := publishUnderLease_cases env (n + 1) token
      generalize env.publishUnderLease (n + 1) token = lease at hlease ⊢
      obtain ⟨calls, returned⟩ := lease
      rcases hlease with ⟨hnone, hstops, hsettled⟩ | ⟨outcome, hsome, hon, hanswered, hsettled⟩
      · simp only at hnone hsettled
        rw [hnone]
        exact hsettled.trans ⟨fun h => ⟨h, fun hgoes => absurd hgoes hstops⟩, fun h => h.1⟩
      · simp only at hsome hsettled
        rw [hsome]
        simp only
        cases hstop : outcome.stop with
        | true =>
          rw [if_pos rfl]
          refine iff_of_true hsettled ⟨hanswered, fun hgoes => ?_⟩
          rw [hon.2 hgoes] at hstop
          cases hstop
        | false =>
          rw [if_neg Bool.false_ne_true]
          simp only [foldl_cons, foldl_append, heldAfter, hsettled]
          rw [drainLoop_settled_iff env left (n + 1)]
          exact ⟨fun h => ⟨hanswered, fun _ => h⟩, fun h => h.2 (hon.1 hstop)⟩

theorem drainLoop_frozen {epochOf : ρ → Int} (hbuilds : env.BuildsAsAsked epochOf) :
    ∀ (left n : Nat) (publishedEpochs : List Int) (frozen : Option (τ × Int)),
      PublishesFrozen epochOf frozen (env.drainLoop left n publishedEpochs).1
  | 0, _, _, _ => trivial
  | left + 1, n, publishedEpochs, _ => by
    rw [drainLoop]
    cases env.claim (n + 1) with
    | threw code => exact trivial
    | awaitingRootSignature => exact trivial
    | notLeased => exact trivial
    | leased token =>
      have hlease : ∀ rest : List (OutboxCall τ ρ),
          (∀ frozen, PublishesFrozen epochOf frozen rest) →
            PublishesFrozen epochOf none ((env.publishUnderLease (n + 1) token).1 ++ rest) :=
        fun _ => publishUnderLease_frozen hbuilds (n + 1) token
      simp only
      generalize env.publishUnderLease (n + 1) token = lease at hlease ⊢
      obtain ⟨calls, returned⟩ := lease
      have halone : PublishesFrozen epochOf none calls := by
        rw [← append_nil calls]
        exact hlease [] fun _ => trivial
      cases returned with
      | none => exact halone
      | some outcome =>
        simp only
        by_cases hstop : outcome.stop = true
        · rw [if_pos hstop]
          exact halone
        · rw [if_neg hstop]
          exact hlease _ (drainLoop_frozen hbuilds left (n + 1) _)

theorem claims_drainLoop (env : PublicationEnv τ ρ) :
    ∀ (left n : Nat) (publishedEpochs : List Int),
      claims (env.drainLoop left n publishedEpochs).1 ≤ left
  | 0, _, _ => Nat.le_refl 0
  | left + 1, n, publishedEpochs => by
    rw [drainLoop]
    cases env.claim (n + 1) with
    | threw code => exact succ_le_succ (zero_le left)
    | awaitingRootSignature => exact succ_le_succ (zero_le left)
    | notLeased => exact succ_le_succ (zero_le left)
    | leased token =>
      have hlease := claims_publishUnderLease env (n + 1) token
      simp only
      generalize env.publishUnderLease (n + 1) token = lease at hlease ⊢
      obtain ⟨calls, returned⟩ := lease
      simp only at hlease
      cases returned with
      | none =>
        simp only
        rw [claims_claim, hlease]
        omega
      | some outcome =>
        simp only
        by_cases hstop : outcome.stop = true
        · rw [if_pos hstop, claims_claim, hlease]
          omega
        · have hrest := claims_drainLoop env left (n + 1)
            (publishedEpochs ++ outcome.publishedEpoch.toList)
          rw [if_neg hstop, claims_claim, claims_append, hlease]
          omega

/-- **Publication leases are settled** exactly if no `prepare` throws for a lease that was handed
over, and the report of an attempt that failed gets through. Whatever is answered, the record that
is submitted is one of the epoch that was frozen, and the cycles are bounded. -/
theorem drainPublications_settles_iff [DecidableEq τ] (env : PublicationEnv τ ρ)
    (epochOf : ρ → Int) (hbuilds : env.BuildsAsAsked epochOf) (maxCycles : Option Int) :
    SettlesLeases epochOf (cycleLimit maxCycles) (env.drainPublications maxCycles).1 ↔
      (env.enabled = true → env.LeasesAnswered (cycleLimit maxCycles) 0) := by
  rw [drainPublications]
  by_cases henabled : env.enabled = false
  · rw [if_pos henabled]
    refine iff_of_true ⟨rfl, trivial, zero_le _⟩ fun h => ?_
    rw [henabled] at h
    cases h
  · rw [if_neg henabled]
    rw [Bool.not_eq_false] at henabled
    constructor
    · intro h _
      exact (drainLoop_settled_iff env _ 0 []).1 h.settled
    · intro h
      exact
        { settled := (drainLoop_settled_iff env _ 0 []).2 (h henabled)
          frozen := drainLoop_frozen hbuilds _ 0 [] none
          bounded := claims_drainLoop env _ 0 [] }

/-- The home's outbox hands over a lease for the epoch 6, and drops the connection when the epoch
is to be frozen. -/
def droppedAtPrepare : PublicationEnv Nat Int where
  enabled := true
  clockMs _ := 1000
  claim _ := .leased 1
  prepare _ _ := .threw
  getAuthorityState _ := some ⟨6, [], 0⟩
  buildAccountAuthorityStateRecord _ request := some request.epoch
  release _ _ := true
  complete _ _ _ := .completed 6
  fail _ _ := true

theorem dangling_after_prepare :
    ¬SettlesLeases id (cycleLimit none) (droppedAtPrepare.drainPublications none).1 := by
  intro h
  cases h.settled

/-- The same outbox when the connection holds: one epoch is published and then nothing is
pending. -/
def answered : PublicationEnv Nat Int :=
  { droppedAtPrepare with
    claim := fun n => if n = 1 then .leased 1 else .notLeased
    prepare := fun _ _ => .prepared 6 }

theorem drainPublications_settles_answered :
    SettlesLeases id (cycleLimit none) (answered.drainPublications none).1 ↔
      (answered.enabled = true → answered.LeasesAnswered (cycleLimit none) 0) :=
  drainPublications_settles_iff answered id
    (fun _ _ _ h => (some_inj.1 h).symm) none

end PublicationEnv

end RezChat.Devices
