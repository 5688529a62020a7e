/-
The catch-up service (`services/InboxCatchupService.js`).

On start and on every reconnect the service drains the deposits that landed
while no session was up. A durable node hands out `{ seq, ciphertextB64 }` items
above a cursor it keeps for the device, and the drain advances that cursor
through the highest contiguous consumed sequence number. A legacy node keeps a
buffer of events, and the drain fetches each one and deletes it once it is
consumed. In both modes a deposit that cannot be consumed yet is left where it
is, counted, held back for a while after repeated failures, and quarantined once
a bound is reached: given up, after a notice to the user.

The pipeline the deposits are fed to is a parameter. It shares with this service
the processed markers, which the drain prunes, and the time its calls take.
-/
import RezChat.Lib.Runs
import RezChat.Catchup.Home
import RezChat.Inbox.Pipeline

set_option autoImplicit false

namespace RezChat.Catchup

open Inbox Proc

/-! ## State -/

/-- What the pipeline and the drain both work on. -/
structure Shared (ρ : Type) where
  processed : OrdMap String ProcessedMarker
  clock : Int
  world : ρ

/-- The pipeline, as the drain calls it. -/
structure PipelinePort (ρ : Type) where
  submit : Frame → Proc (Shared ρ) Result
  retryApplyOutbox : String → RetryBounds → Proc (Shared ρ) Pipeline.RetryReport

/-- The options of the constructor, with their defaults. -/
structure Config where
  mailboxId : String
  pageLimit : Nat := 50
  maxDecryptAttempts : Nat := 8
  maxQuarantineAgeMs : Int := 30 * 60 * 1000

/-- Suspended time is not retry time: age may only quarantine a deposit that has
had this many real attempts. -/
def quarantineMinAttemptsForAge : Nat := 3

def decryptRetryBackoffMs : Int := 15 * 1000

def decryptBackoffAfterAttempts : Nat := 3

/-- A deposit, by the sequence number of a durable home or the event id of a
legacy buffer. -/
inductive Ident where
  | seq (n : Nat)
  | event (eventId : String)
  deriving DecidableEq

/-- The key its counters and its back-off are kept under. -/
def Ident.key : Ident → String
  | .seq n => seqKey n
  | .event eventId => eventId

/-- The journal. A `quarantined` entry is the notice to the user, and
`contiguous` is whether the pass had met no gap before it; an `ackFailed` entry
names the quarantined deposits that a failed acknowledgement left to be listed
again. -/
inductive Event where
  | listed (seqs : List Nat)
  | settled (id : Ident) (ok : Bool)
  | attempted (id : Ident) (attempts : Nat)
  | quarantined (id : Ident) (attempts : Nat) (ageMs : Int)
      (reason : Pipeline.QuarantineReason) (contiguous : Bool)
  | applyQuarantined (dedupId : String)
  | acking (throughSeq : Nat)
  | ackFailed (left : List Ident)
  | restarted
  deriving DecidableEq

/-- The buffer of a legacy node. It never issues an event id twice. -/
structure Relay where
  buffer : OrdMap String String
  issued : List String

structure State (ρ : Type) where
  home : Home
  relay : Relay
  log : ProcessedKv
  backoffUntilMs : OrdMap String Int
  clock : Int
  world : ρ
  journal : List Event

def State.noted {ρ : Type} (s : State ρ) (e : Event) : State ρ :=
  { s with journal := e :: s.journal }

namespace Service

variable {ρ α : Type}

/-! ## Where each call happens -/

def note (e : State ρ → Event) : Proc (State ρ) Unit := modify fun s => s.noted (e s)

def inLog (p : Proc ProcessedKv α) : Proc (State ρ) α :=
  zoom State.log (fun kv s => { s with log := kv }) p

def inPipeline (p : Proc (Shared ρ) α) : Proc (State ρ) α :=
  zoom (fun s => ⟨s.log.processed, s.clock, s.world⟩)
    (fun t s => { s with
      log := { s.log with processed := t.processed }
      clock := t.clock
      world := t.world }) p

/-! ## Failed deposits -/

/-- The outcome of counting one failure. -/
structure FailureCount where
  attempts : Nat
  ageMs : Int
  tooManyAttempts : Bool
  tooOld : Bool
  nowMs : Int

/-- Whether a bound is reached: by attempts, or by age since the first failure
with the floor of attempts. -/
def assess (cfg : Config) (nowMs : Int) (attempts : Nat) (firstSeenAtMs : Int) :
    FailureCount :=
  let ageMs := if 0 < firstSeenAtMs then nowMs - firstSeenAtMs else 0
  { attempts := attempts
    ageMs := ageMs
    tooManyAttempts := decide (cfg.maxDecryptAttempts ≤ attempts)
    tooOld := decide (0 < firstSeenAtMs) && decide (cfg.maxQuarantineAgeMs ≤ ageMs) &&
      decide (quarantineMinAttemptsForAge ≤ attempts)
    nowMs := nowMs }

/-- The deposit is to be quarantined. -/
def FailureCount.over (count : FailureCount) : Bool := count.tooManyAttempts || count.tooOld

def FailureCount.reason (count : FailureCount) : Pipeline.QuarantineReason :=
  if count.tooManyAttempts then .attempts else .age

/-- Count a failed attempt and measure its age from the first one; `none` when
the counter could not be recorded. The two failure handlers share it. -/
def countFailure (cfg : Config) (id : Ident) : Proc (State ρ) (Option FailureCount) := do
  let s ← get
  let nowMs := s.clock
  let recorded ← tryCatch (do
    let n ← inLog (ProcessedLog.recordAttempt cfg.mailboxId id.key nowMs)
    pure (some n)) (pure none)
  match recorded with
  | none => pure none
  | some attempts => do
    note fun _ => .attempted id attempts
    let firstSeenAtMs ← tryCatch
      (inLog (ProcessedLog.firstSeenAtMs cfg.mailboxId id.key)) (pure 0)
    pure (some (assess cfg nowMs attempts firstSeenAtMs))

/-- A back-off map grown too large loses the entries whose time is up. -/
def pruneBackoff (nowMs : Int) (m : OrdMap String Int) : OrdMap String Int :=
  if 16384 < m.size then
    (m.entries.filter fun e => decide (e.2 ≤ nowMs)).foldl (fun m e => m.delete e.1) m
  else m

/-- Hold a repeatedly failing deposit back for a while. -/
def armBackoff (id : Ident) (count : FailureCount) : Proc (State ρ) Unit :=
  if decryptBackoffAfterAttempts ≤ count.attempts then
    modify fun s =>
      let armed := s.backoffUntilMs.set id.key (count.nowMs + decryptRetryBackoffMs)
      { s with backoffUntilMs := pruneBackoff count.nowMs armed }
  else pure ()

/-- Whether the deposit is still held back. -/
def heldBack (s : State ρ) (id : Ident) : Bool :=
  match s.backoffUntilMs.get? id.key with
  | some untilMs => decide (s.clock < untilMs)
  | none => false

def dropBackoff (id : Ident) : Proc (State ρ) Unit :=
  modify fun s => { s with backoffUntilMs := s.backoffUntilMs.delete id.key }

/-- `#emitQuarantined`: the notice to the user. -/
def emitQuarantined (id : Ident) (count : FailureCount) (contiguous : Bool) :
    Proc (State ρ) Unit :=
  note fun _ => .quarantined id count.attempts count.ageMs count.reason contiguous

def clearAttempts (cfg : Config) (id : Ident) : Proc (State ρ) Unit :=
  tryCatch (inLog (ProcessedLog.clearAttempts cfg.mailboxId id.key)) (pure ())

def forget (cfg : Config) (id : Ident) : Proc (State ρ) Unit :=
  tryCatch (inLog (ProcessedLog.forget cfg.mailboxId id.key)) (pure ())

/-- `#handleDurableFailure`: `true` when the deposit is quarantined, so that the
caller skips the cursor past it. Its counters are cleared at once. -/
def handleDurableFailure (cfg : Config) (seq : Nat) (contiguous : Bool) :
    Proc (State ρ) Bool := do
  let counted ← countFailure cfg (.seq seq)
  match counted with
  | none => pure false
  | some count =>
    if count.over then do
      emitQuarantined (.seq seq) count contiguous
      clearAttempts cfg (.seq seq)
      forget cfg (.seq seq)
      dropBackoff (.seq seq)
      pure true
    else do
      armBackoff (.seq seq) count
      pure false

/-! ## The durable drain -/

/-- What a pass has established about the items of one page so far.
`quarantined` lists the deposits given up within the contiguous run. -/
structure Batch where
  throughSeq : Nat
  consumedSeqs : List Nat
  blocked : Bool
  contiguous : Bool
  quarantined : List Nat

def Batch.start : Batch :=
  { throughSeq := 0, consumedSeqs := [], blocked := false, contiguous := true
    quarantined := [] }

/-- `#itemSeq`: a positive integer, or nothing. -/
def itemSeq (item : Deposit) : Option Nat :=
  if item.seqUsable = true ∧ 0 < item.seq then some item.seq else none

def durableFrame (cfg : Config) (seq : Nat) (item : Deposit) : Frame :=
  { mailboxId := some cfg.mailboxId, seq := some (seq : Int)
    ciphertextB64 := some item.ciphertextB64 }

/-- Feed a frame to the pipeline; the deposit is ack-safe when it is durable or
was processed before. -/
def submitFrame (port : PipelinePort ρ) (id : Ident) (frame : Frame) :
    Proc (State ρ) Bool := do
  let result ← tryCatch (do
    let r ← inPipeline (port.submit frame)
    pure (some r)) (pure none)
  let ok := (result.map fun r => r.durable || r.alreadyProcessed).getD false
  note fun _ => .settled id ok
  pure ok

/-- One item with a usable sequence number. -/
def drainItem (port : PipelinePort ρ) (cfg : Config) (item : Deposit) (seq : Nat)
    (b : Batch) : Proc (State ρ) Batch := do
  let s ← get
  if heldBack s (.seq seq) then
    -- a gap: the cursor stops here, later items still get their chance
    pure { b with blocked := true, contiguous := false }
  else do
    let ok ← submitFrame port (.seq seq) (durableFrame cfg seq item)
    if ok then
      -- only a gap-free run may move the watermark
      if b.contiguous then
        pure { b with throughSeq := seq, consumedSeqs := b.consumedSeqs ++ [seq] }
      else pure b
    else do
      let skip ← handleDurableFailure cfg seq b.contiguous
      if skip then
        if b.contiguous then
          pure { b with throughSeq := seq, quarantined := b.quarantined ++ [seq] }
        else pure b
      else pure { b with blocked := true, contiguous := false }

/-- The items of a page, in order. An item without a usable sequence number
halts the pass. -/
def drainItems (port : PipelinePort ρ) (cfg : Config) : List Deposit → Batch →
    Proc (State ρ) Batch
  | [], b => pure b
  | item :: rest, b =>
    match itemSeq item with
    | none => pure { b with blocked := true }
    | some seq => do
      let b ← drainItem port cfg item seq b
      drainItems port cfg rest b

/-- `sdk.mailbox.list`: what was due arrives, and the home answers. -/
def listPage (cfg : Config) : Proc (State ρ) (List Deposit) :=
  await fun s =>
    let (home, elapsedMs) := s.home.catchUp
    let page := home.page cfg.pageLimit
    (page, { s with
      home := home
      clock := s.clock + elapsedMs
      journal := .listed (page.map Deposit.seq) :: s.journal })

/-- `#forgetConsumedSeqs`: markers behind the cursor are dead weight. -/
def forgetConsumedSeqs (cfg : Config) (seqs : List Nat) : Proc (State ρ) Unit :=
  seqs.foldlM (fun _ seq => do
    dropBackoff (.seq seq)
    forget cfg (.seq seq)) ()

/-- Send `cursorAck`; `false` when it failed and the pass must end. -/
def ackBatch (cfg : Config) (b : Batch) : Proc (State ρ) Bool := do
  note fun _ => .acking b.throughSeq
  let acked ← tryCatch (do
    await fun s => ((), { s with home := s.home.cursorAck b.throughSeq })
    pure true) do
      note fun s => .ackFailed
        (if s.home.cursor < b.throughSeq then b.quarantined.map Ident.seq else [])
      pure false
  if acked then do
    forgetConsumedSeqs cfg b.consumedSeqs
    pure true
  else pure false

/-- `#drainDurable`, page by page; `false` when the fuel runs out first. -/
def drainLoop (port : PipelinePort ρ) (cfg : Config) : Nat → Proc (State ρ) Bool
  | 0 => pure false
  | fuel + 1 => do
    let items ← listPage cfg
    if items = [] then pure true
    else do
      let b ← drainItems port cfg items Batch.start
      let goOn ← if 0 < b.throughSeq then ackBatch cfg b else pure true
      if !goOn then pure true
      else if b.blocked then pure true
      else drainLoop port cfg fuel

/-- A pass that goes on has moved the cursor past a whole page, so one page more
than there are deposits is enough (`drainDurable_ends`). -/
def drainDurable (port : PipelinePort ρ) (cfg : Config) : Proc (State ρ) Bool := do
  let s ← get
  drainLoop port cfg (s.home.backlog + 1)

/-! ## The legacy drain -/

/-- `#ackAndForget`: delete the event from the buffer and prune its markers. -/
def ackAndForget (cfg : Config) (eventId : String) : Proc (State ρ) Unit := do
  dropBackoff (.event eventId)
  let acked ← tryCatch (do
    await fun s =>
      ((), { s with relay := { s.relay with buffer := s.relay.buffer.delete eventId } })
    pure true) do
      note fun s => .ackFailed
        (if s.relay.buffer.has eventId then [.event eventId] else [])
      pure false
  if acked then do
    forget cfg (.event eventId)
    clearAttempts cfg (.event eventId)
  else pure ()

/-- `#handleDecryptFailure`: count the attempt, and quarantine by acknowledging
the event once a bound is reached. -/
def handleDecryptFailure (cfg : Config) (eventId : String) : Proc (State ρ) Unit := do
  let counted ← countFailure cfg (.event eventId)
  match counted with
  | none => pure ()
  | some count =>
    if count.over then do
      emitQuarantined (.event eventId) count true
      ackAndForget cfg eventId
    else armBackoff (.event eventId) count

/-- One listed event. A failed fetch ends the pass. -/
def drainEvent (port : PipelinePort ρ) (cfg : Config) (eventId : String) :
    Proc (State ρ) Unit :=
  if eventId = "" then pure ()
  else do
    let s ← get
    if heldBack s (.event eventId) then pure ()
    else do
      let ciphertextB64 ← await fun s => ((s.relay.buffer.get? eventId).getD "", s)
      let ok ← submitFrame port (.event eventId)
        { mailboxId := some cfg.mailboxId, eventId := some eventId
          ciphertextB64 := some ciphertextB64 }
      if ok then ackAndForget cfg eventId else handleDecryptFailure cfg eventId

/-- The events the buffer still holds of those a listing would name. -/
def listEvents (named : List String) : Proc (State ρ) (List String) :=
  await fun s => (s.relay.buffer.keys.filter fun k => decide (k ∈ named), s)

/-- The legacy pass walks the buffer once, page by page; `pages` are the events
each of its listings names. -/
def drainLegacy (port : PipelinePort ρ) (cfg : Config) : List (List String) →
    Proc (State ρ) Unit
  | [] => pure ()
  | named :: pages => do
    let items ← listEvents named
    if items = [] then pure ()
    else do
      items.foldlM (fun _ eventId => drainEvent port cfg eventId) ()
      drainLegacy port cfg pages

/-! ## A whole pass -/

/-- `#retryApplyOutbox`: the staged-but-unapplied payloads come first. -/
def retryApplyOutbox (port : PipelinePort ρ) (cfg : Config) : Proc (State ρ) Unit := do
  let s ← get
  let report ← tryCatch (do
    let r ← inPipeline (port.retryApplyOutbox cfg.mailboxId
      { maxAttempts := cfg.maxDecryptAttempts, maxAgeMs := cfg.maxQuarantineAgeMs
        minAttemptsForAge := quarantineMinAttemptsForAge, nowMs := s.clock })
    pure (some r)) (pure none)
  match report with
  | none => pure ()
  | some r => r.quarantined.foldlM (fun _ q => note fun _ => .applyQuarantined q.dedupId) ()

/-- Which kind of node is on the other end. -/
inductive Mode where
  | durable
  | legacy (pages : List (List String))

/-- `#drainOnce`. -/
def drainOnce (port : PipelinePort ρ) (cfg : Config) (mode : Mode) : Proc (State ρ) Unit := do
  retryApplyOutbox port cfg
  match mode with
  | .durable => do
    let _ ← drainDurable port cfg
    pure ()
  | .legacy pages => drainLegacy port cfg pages

/-! ## Runs -/

/-- What can happen: a drain, deposits arriving at either kind of node, time
going by, and a restart. -/
inductive Op where
  | drain (mode : Mode) (fates : List Fate)
  | arrive (deposits : List Deposit)
  | schedule (arrivals : List Arrival)
  | arriveLegacy (eventId ciphertextB64 : String)
  | elapse (ms : Nat)
  | restart

/-- A new process: the back-off map was in memory. -/
def restart (wake : ρ → ρ) (s : State ρ) : State ρ :=
  { s.noted .restarted with backoffUntilMs := OrdMap.empty, world := wake s.world }

def finish (wake : ρ → ρ) (e : Ending (State ρ) α) : State ρ :=
  match e.outcome with
  | .died => restart wake e.state
  | _ => e.state

def Relay.arrive (r : Relay) (eventId ciphertextB64 : String) : Relay :=
  if eventId ∈ r.issued then r
  else { buffer := r.buffer.set eventId ciphertextB64, issued := eventId :: r.issued }

def step (port : PipelinePort ρ) (cfg : Config) (wake : ρ → ρ) (s : State ρ) :
    Op → State ρ
  | .drain mode fates => finish wake (drainOnce port cfg mode fates s)
  | .arrive deposits => { s with home := s.home.arrive deposits }
  | .schedule arrivals =>
    { s with home := { s.home with schedule := s.home.schedule ++ arrivals } }
  | .arriveLegacy eventId ciphertextB64 =>
    { s with relay := Relay.arrive s.relay eventId ciphertextB64 }
  | .elapse ms => { s with clock := s.clock + ms }
  | .restart => restart wake s

/-- A fresh service over a home with its cursor at `cursor`. -/
def fresh (cursor : Nat) (clock : Int) (world : ρ) : State ρ :=
  { home := ⟨[], List.Pairwise.nil, cursor, []⟩
    relay := ⟨OrdMap.empty, []⟩
    log := {}
    backoffUntilMs := OrdMap.empty
    clock := clock
    world := world
    journal := [] }

end Service

end RezChat.Catchup
