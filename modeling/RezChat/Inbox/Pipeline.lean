/-
The inbound deposit pipeline (`runtime/InboundDepositPipeline.js`).

The single, serialized inbound path for mailbox deposits: live push, catch-up
drain and the pipeline's own retries all feed it, and it takes one deposit at a
time to full completion. Its collaborators are parameters: the peer-link
protocol that decrypts a deposit, and the two entry points of the event
service. What they do to their own state `ρ` is theirs; what the pipeline owns
is the apply-outbox, the processed log and its in-memory retry buffer.

The pipeline reports to whoever acknowledges deposits, so what it does is
recorded in a journal, newest entry first. The journal is no part of the
program: no step reads it.
-/
import RezChat.Lib.Runs
import RezChat.Inbox.ApplyOutbox
import RezChat.Inbox.ProcessedLog

set_option autoImplicit false

namespace RezChat.Inbox

open Proc ProcessedLog ApplyOutbox

/-- What the peer-link protocol says about a deposit it was handed. -/
structure Status (μ : Type) where
  consumed : Bool
  decryptOk : Bool
  userMessage : Option μ

/-- The status object `submit` resolves with. -/
structure Result where
  consumed : Bool
  decryptOk : Bool
  alreadyProcessed : Bool
  applied : Bool
  durable : Bool
  deriving DecidableEq

/-- The bounds of the retry buffer. -/
structure Limits where
  maxPending : Nat
  maxRetainAttempts : Nat
  maxPending_pos : 0 < maxPending
  maxRetainAttempts_pos : 0 < maxRetainAttempts

/-- What the constructor makes of an option that is to be a positive integer (`none` where it is
no integer at all). -/
def positiveOr (option : Option Int) (fallback : Nat) : Nat :=
  match option with
  | some n => if 0 < n then n.toNat else fallback
  | none => fallback

theorem positiveOr_pos (option : Option Int) {fallback : Nat} (h : 0 < fallback) :
    0 < positiveOr option fallback := by
  rcases option with _ | n
  · exact h
  · rw [positiveOr]
    split
    · omega
    · exact h

/-- The bounds as the constructor takes them. -/
def Limits.admitted (maxPending maxRetainAttempts : Option Int) : Limits where
  maxPending := positiveOr maxPending 256
  maxRetainAttempts := positiveOr maxRetainAttempts 12
  maxPending_pos := positiveOr_pos _ (by omega)
  maxRetainAttempts_pos := positiveOr_pos _ (by omega)

/-- What the pipeline is constructed with: `peerLinkProtocol.processDeposit`,
`applyUserMessage` and `processDeposit` of the event service, and its bounds. -/
structure Collaborators (μ ρ : Type) where
  decryptDeposit : Frame → Proc ρ (Option (Status μ))
  applyUserMessage : μ → Proc ρ Unit
  processDeposit : Frame → Proc ρ Unit
  limits : Limits := Limits.admitted none none

/-- The poison bounds of one retry pass over the outbox. -/
structure RetryBounds where
  maxAttempts : Nat
  maxAgeMs : Int
  minAttemptsForAge : Nat
  nowMs : Int
  deriving DecidableEq

/-- The journal. `marked` is whether a processed marker stood when the deposit
was handed to the peer link, `message` whether the peer link returned a user
message, and `held` whether the outbox held the deposit. -/
inductive Event where
  | lookupFailed (id : DepositId)
  | decrypting (id : DepositId) (marked : Bool)
  | applied (id : DepositId)
  | unstaging (id : DepositId)
  | exhausted (id : DepositId) (bounds : RetryBounds) (attempts : Nat) (ageMs : Int)
  | marking (id : DepositId) (message held : Bool)
  | reported (id : DepositId) (result : Result) (message held : Bool)
  deriving DecidableEq

/-- A deposit retained in memory, and how often it was re-fed. -/
structure PendingEntry where
  frame : Frame
  attempts : Nat
  deriving DecidableEq

structure PipelineState (μ ρ : Type) where
  outbox : OutboxKv μ
  log : ProcessedKv
  pending : OrdMap String PendingEntry
  world : ρ
  journal : List Event

/-- The state with one more entry in its journal. -/
def PipelineState.noted {μ ρ : Type} (s : PipelineState μ ρ) (e : Event) : PipelineState μ ρ :=
  { s with journal := e :: s.journal }

namespace Pipeline

variable {μ ρ α : Type}

/-- A freshly installed server whose collaborators are in state `world`. -/
def fresh (world : ρ) : PipelineState μ ρ :=
  { outbox := OrdMap.empty, log := {}, pending := OrdMap.empty, world := world, journal := [] }

/-! ## Where each call happens -/

def note (e : PipelineState μ ρ → Event) : Proc (PipelineState μ ρ) Unit :=
  modify fun s => s.noted (e s)

def inOutbox (p : Proc (OutboxKv μ) α) : Proc (PipelineState μ ρ) α :=
  zoom PipelineState.outbox (fun kv s => { s with outbox := kv }) p

def inLog (p : Proc ProcessedKv α) : Proc (PipelineState μ ρ) α :=
  zoom PipelineState.log (fun kv s => { s with log := kv }) p

def inWorld (p : Proc ρ α) : Proc (PipelineState μ ρ) α :=
  zoom PipelineState.world (fun w s => { s with world := w }) p

/-! ## One deposit -/

/-- The dedup lookup. A lookup that fails counts as a miss. -/
def alreadyProcessed (id : DepositId) : Proc (PipelineState μ ρ) Bool :=
  if id.dedupId = "" then pure false
  else tryCatch (inLog (has id.mailboxId id.dedupId)) do
    note fun _ => .lookupFailed id
    pure false

/-- Hand the deposit to the peer link. A throw is a `null` status. -/
def decryptDeposit (c : Collaborators μ ρ) (id : DepositId) (frame : Frame) :
    Proc (PipelineState μ ρ) (Option (Status μ)) := do
  note fun s => .decrypting id (decide (Marked s.log id))
  tryCatch (inWorld (c.decryptDeposit frame)) (pure none)

/-- Stage the decrypted payload. Only a throw counts as not staged: the answer
of `outbox.stage` itself is not looked at. -/
def stageMessage (id : DepositId) (userMessage : Option μ) (nowMs : Int) :
    Proc (PipelineState μ ρ) Bool :=
  match userMessage with
  | none => pure true
  | some m => tryCatch (do
      let _ ← inOutbox (stage id.mailboxId id.dedupId m nowMs)
      pure true) (pure false)

/-- Apply the decrypted message; the two flags are `applied` and
`userApplied`. -/
def applyMessage (c : Collaborators μ ρ) (id : DepositId) (userMessage : Option μ) :
    Proc (PipelineState μ ρ) (Bool × Bool) :=
  match userMessage with
  | none => pure (true, false)
  | some m => tryCatch (do
      inWorld (c.applyUserMessage m)
      note fun _ => .applied id
      pure (true, true)) (pure (false, false))

/-- The plaintext-deposit path. -/
def applyPlaintext (c : Collaborators μ ρ) (frame : Frame) (applied : Bool) :
    Proc (PipelineState μ ρ) Bool :=
  tryCatch (do
    inWorld (c.processDeposit frame)
    pure applied) (pure false)

def markOutboxApplied (id : DepositId) : Proc (PipelineState μ ρ) Unit := do
  note fun _ => .unstaging id
  tryCatch (inOutbox (markApplied id.mailboxId id.dedupId)) (pure ())

def recordOutboxFailure (id : DepositId) (nowMs : Int) :
    Proc (PipelineState μ ρ) FailureCount :=
  tryCatch (inOutbox (recordApplyFailure id.mailboxId id.dedupId nowMs))
    (pure ⟨0, none⟩)

/-- Drop the staged copy once it is applied, else count the failure. -/
def reconcile (id : DepositId) (nowMs : Int) (hasUserMessage staged userApplied : Bool) :
    Proc (PipelineState μ ρ) Unit :=
  if hasUserMessage && staged then
    if userApplied then markOutboxApplied id
    else do
      let _ ← recordOutboxFailure id nowMs
      pure ()
  else pure ()

/-- Mark the deposit processed, if it should be. -/
def markProcessed (id : DepositId) (nowMs : Int) (hasUserMessage shouldMark : Bool) :
    Proc (PipelineState μ ρ) Unit :=
  if id.dedupId ≠ "" ∧ shouldMark = true then do
    note fun s => .marking id hasUserMessage (decide (Holds s.outbox id))
    tryCatch (inLog (mark id.mailboxId id.dedupId nowMs)) (pure ())
  else pure ()

def report (id : DepositId) (result : Result) (hasUserMessage : Bool) :
    Proc (PipelineState μ ρ) Result := do
  note fun s => .reported id result hasUserMessage (decide (Holds s.outbox id))
  pure result

/-- Everything `#processOne` does once the peer link has answered. -/
def processStatus (c : Collaborators μ ρ) (id : DepositId) (frame : Frame) (nowMs : Int)
    (status : Option (Status μ)) : Proc (PipelineState μ ρ) Result := do
  let consumed := (status.map Status.consumed).getD false
  let decryptOk := (status.map Status.decryptOk).getD false
  let userMessage := status.bind Status.userMessage
  let hasUserMessage := userMessage.isSome
  let staged ← stageMessage id userMessage nowMs
  let (applied, userApplied) ← applyMessage c id userMessage
  let applied ← applyPlaintext c frame applied
  -- staged or applied: either is enough to advance the cursor
  let durableUserMessage := staged || userApplied
  reconcile id nowMs hasUserMessage staged userApplied
  markProcessed id nowMs hasUserMessage (decryptOk && (!hasUserMessage || durableUserMessage))
  report id
    { consumed := consumed, decryptOk := decryptOk, alreadyProcessed := false
      applied := applied
      durable := if hasUserMessage then durableUserMessage else consumed }
    hasUserMessage

/-- `#processOne`. -/
def processOne (c : Collaborators μ ρ) (frame : Frame) (nowMs : Int) :
    Proc (PipelineState μ ρ) Result := do
  let id := depositIdentity frame
  let already ← alreadyProcessed id
  if already then
    report id
      { consumed := true, decryptOk := false, alreadyProcessed := true, applied := false
        durable := true } false
  else do
    let status ← decryptDeposit c id frame
    processStatus c id frame nowMs status

/-! ## The retry buffer -/

def frameCiphertext (frame : Frame) : String := frame.ciphertextB64.getD ""

/-- Add or remove a deposit from the retry buffer. Only deposits that carry
ciphertext are retained; a full buffer drops its oldest entry. -/
def updatePending (limits : Limits) (frame : Frame) (result : Result)
    (pending : OrdMap String PendingEntry) : OrdMap String PendingEntry :=
  let id := depositIdentity frame
  let key := logKey id
  if id.dedupId = "" then pending
  else if result.consumed || result.alreadyProcessed then pending.delete key
  else if frameCiphertext frame = "" then pending
  else if pending.has key then pending
  else
    let room :=
      if limits.maxPending ≤ pending.size then
        match pending.keys.head? with
        | some oldestKey => pending.delete oldestKey
        | none => pending
      else pending
    room.set key ⟨frame, 0⟩

/-- What becomes of a retained entry after it was fed once more. -/
def settlePending (limits : Limits) (key : String) (result : Option Result)
    (pending : OrdMap String PendingEntry) : OrdMap String PendingEntry :=
  match result with
  | some r =>
    if r.consumed || r.alreadyProcessed then pending.delete key else retained
  | none => retained
where
  retained : OrdMap String PendingEntry :=
    match pending.get? key with
    | some entry =>
      if limits.maxRetainAttempts ≤ entry.attempts + 1 then pending.delete key
      else pending.set key { entry with attempts := entry.attempts + 1 }
    | none => pending

/-- Whether a re-fed deposit made progress. -/
def progressed (result : Option Result) : Bool :=
  match result with
  | some r => r.consumed || r.alreadyProcessed
  | none => false

/-- Feed one retained deposit through `#processOne` again. -/
def redrainEntry (c : Collaborators μ ρ) (nowMs : Int) (progress : Bool)
    (entry : String × PendingEntry) : Proc (PipelineState μ ρ) Bool := do
  let r ← tryCatch (do
    let r ← processOne c entry.2.frame nowMs
    pure (some r)) (pure none)
  modify fun s => { s with pending := settlePending c.limits entry.1 r s.pending }
  pure (progress || progressed r)

/-- One pass over a snapshot of the buffer. -/
def redrainPass (c : Collaborators μ ρ) (nowMs : Int) : Proc (PipelineState μ ρ) Bool := do
  let s ← get
  s.pending.entries.foldlM (redrainEntry c nowMs) false

/-- Passes until one makes no progress; `false` when the fuel runs out first. -/
def redrainLoop (c : Collaborators μ ρ) (nowMs : Int) : Nat → Proc (PipelineState μ ρ) Bool
  | 0 => pure false
  | fuel + 1 => do
    let progress ← redrainPass c nowMs
    if progress then redrainLoop c nowMs fuel else pure true

/-- `#redrainPending`. A pass that makes progress removes an entry, so one pass
more than there are entries is enough (`redrainPending_finishes`). -/
def redrainPending (c : Collaborators μ ρ) (nowMs : Int) : Proc (PipelineState μ ρ) Bool := do
  let s ← get
  redrainLoop c nowMs (s.pending.size + 1)

/-- `submit`: process one deposit, update the retry buffer, and re-drain it if
the deposit was freshly consumed. -/
def submit (c : Collaborators μ ρ) (frame : Frame) (nowMs : Int) :
    Proc (PipelineState μ ρ) Result := do
  let result ← processOne c frame nowMs
  modify fun s => { s with pending := updatePending c.limits frame result s.pending }
  let s ← get
  if result.consumed && !result.alreadyProcessed && decide (0 < s.pending.size) then do
    let _ ← redrainPending c nowMs
    pure result
  else pure result

/-- One tick of the periodic sweep. -/
def sweep (c : Collaborators μ ρ) (nowMs : Int) : Proc (PipelineState μ ρ) Unit := do
  let s ← get
  if s.pending.size = 0 then pure ()
  else do
    let _ ← redrainPending c nowMs
    pure ()

/-! ## The retry pass over the outbox -/

/-- The age of an entry whose failure was counted. -/
def entryAgeMs (bounds : RetryBounds) (count : FailureCount) : Int :=
  match count.firstStagedAtMs with
  | some first => max 0 (bounds.nowMs - first)
  | none => 0

def overAttempts (bounds : RetryBounds) (attempts : Nat) : Bool :=
  decide (0 < bounds.maxAttempts) && decide (bounds.maxAttempts ≤ attempts)

/-- The age bound counts wall-clock time, so it needs a floor of real
attempts. -/
def overAge (bounds : RetryBounds) (attempts : Nat) (ageMs : Int) : Bool :=
  decide (0 < bounds.maxAgeMs) && decide (bounds.maxAgeMs ≤ ageMs) &&
    (!decide (0 < bounds.minAttemptsForAge) || decide (bounds.minAttemptsForAge ≤ attempts))

inductive QuarantineReason where
  | age
  | attempts
  deriving DecidableEq

structure Quarantined where
  dedupId : String
  attempts : Nat
  ageMs : Int
  reason : QuarantineReason

/-- What `retryApplyOutbox` resolves with. -/
structure RetryReport where
  applied : List String
  quarantined : List Quarantined

/-- The `catch` branch of a retry: count the failure, and drop the entry when it
is over a bound. -/
def retryFailed (mailboxId : String) (bounds : RetryBounds) (dedupId : String)
    (acc : RetryReport) : Proc (PipelineState μ ρ) RetryReport := do
  let id : DepositId := ⟨mailboxId, dedupId⟩
  let count ← recordOutboxFailure id bounds.nowMs
  let ageMs := entryAgeMs bounds count
  if overAttempts bounds count.attempts || overAge bounds count.attempts ageMs then do
    note fun _ => .exhausted id bounds count.attempts ageMs
    markOutboxApplied id
    pure { acc with quarantined := acc.quarantined ++
      [⟨dedupId, count.attempts, ageMs,
        if overAge bounds count.attempts ageMs then .age else .attempts⟩] }
  else pure acc

/-- Retry one staged entry. -/
def retryEntry (c : Collaborators μ ρ) (mailboxId : String) (bounds : RetryBounds)
    (acc : RetryReport) (entry : OutboxEntry μ) : Proc (PipelineState μ ρ) RetryReport :=
  if entry.dedupId = "" then pure acc
  else
    tryCatch (do
      inWorld (c.applyUserMessage entry.userMessage)
      note fun _ => .applied ⟨mailboxId, entry.dedupId⟩
      markOutboxApplied ⟨mailboxId, entry.dedupId⟩
      pure { acc with applied := acc.applied ++ [entry.dedupId] })
    (retryFailed mailboxId bounds entry.dedupId acc)

/-- `#retryApplyOutbox`. -/
def retryApplyOutbox (c : Collaborators μ ρ) (mailboxId : String) (bounds : RetryBounds) :
    Proc (PipelineState μ ρ) RetryReport := do
  let pending ← tryCatch (do
    let l ← inOutbox (listPending mailboxId)
    pure (some l)) (pure none)
  match pending with
  | none => pure ⟨[], []⟩
  | some l => l.foldlM (retryEntry c mailboxId bounds) ⟨[], []⟩

/-! ## Runs -/

/-- What can happen to the pipeline. Operations run one at a time on the submit
queue; each carries the fates its awaits meet. `forget` is the catch-up service
pruning a marker behind the acknowledged cursor. -/
inductive Op where
  | submit (frame : Frame) (nowMs : Int) (fates : List Fate)
  | sweep (nowMs : Int) (fates : List Fate)
  | retryApplyOutbox (mailboxId : String) (bounds : RetryBounds) (fates : List Fate)
  | forget (mailboxId dedupId : String) (fates : List Fate)
  | restart

/-- A new process over what is durable. The retry buffer is gone; `wake` is
what the collaborators make of their own state. -/
def restart (wake : ρ → ρ) (s : PipelineState μ ρ) : PipelineState μ ρ :=
  { s with pending := OrdMap.empty, world := wake s.world }

/-- The state an operation leaves: if the process died in it, that of the
process started after it. -/
def finish (wake : ρ → ρ) (e : Ending (PipelineState μ ρ) α) : PipelineState μ ρ :=
  match e.outcome with
  | .died => restart wake e.state
  | _ => e.state

/-- One operation. -/
def step (c : Collaborators μ ρ) (wake : ρ → ρ) (s : PipelineState μ ρ) :
    Op → PipelineState μ ρ
  | .submit frame nowMs fates => finish wake (submit c frame nowMs fates s)
  | .sweep nowMs fates => finish wake (sweep c nowMs fates s)
  | .retryApplyOutbox mailboxId bounds fates =>
    finish wake (retryApplyOutbox c mailboxId bounds fates s)
  | .forget mailboxId dedupId fates =>
    finish wake (inLog (forget mailboxId dedupId) fates s)
  | .restart => restart wake s

end Pipeline

end RezChat.Inbox
