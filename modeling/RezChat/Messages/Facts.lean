/-
The log of signed originals (`storage/ChatThreadStore.js`, `appendOriginalFact` and
`findBaseFactsByMessageId`), and what a crash leaves of it.

Every signed payload that is admitted is kept for good under its thread and its
fingerprint. Of the messages among them, the base facts, the thread also has an index: for
the pair of an author and a message id, the fingerprints of what that author signed under
that id. Two fingerprints under one pair are an integrity conflict.

A fact and its index entry are written one after the other, and a call that is retried
returns early when the fact is there. So an attempt that stops between the two writes is
never made good: the condition `Whole` under which the log is consistent after every
retried call says that no attempt does. It is exact (`appends_consistent_iff`).
-/
import RezChat.Lib.Async
import RezChat.Lib.OrdMap
import RezChat.Lib.Runs
import RezChat.Inbox.Frame

set_option autoImplicit false

namespace RezChat.Messages

open Inbox (trim trim_trim)
open List Option Proc

/-! ## The log and its index -/

/-- `MESSAGE_KIND`. -/
def messageKind : String := "rez.chat.message.v1"

/-- The fields of a signed payload that the log reads. One that is missing, or no string,
is read as empty. -/
structure OriginalPayload where
  kind : String
  senderAccountId : String
  messageId : String
  targetMessageId : String
  targetFingerprint : String
  deriving DecidableEq

/-- What a caller asks to be kept. -/
structure NewFact where
  fingerprint : String
  payload : OriginalPayload
  receivedAtMs : Int
  origin : String

/-- What is kept. -/
structure OriginalFact where
  fingerprint : String
  kind : String
  threadId : String
  senderAccountId : String
  messageId : String
  targetMessageId : String
  targetFingerprint : String
  receivedAtMs : Int
  origin : String
  payload : OriginalPayload
  deriving DecidableEq

/-- An author and a message id. In the store the two are one string, with a NUL between
them, and no account id contains one. -/
abbrev Identity : Type := String × String

structure IndexEntry where
  fingerprints : List String
  conflicted : Bool

/-- The originals, by thread and fingerprint, and the index of each thread. -/
structure FactLog where
  originals : OrdMap (String × String) OriginalFact
  originalsIndex : OrdMap String (OrdMap Identity IndexEntry)

/-- A message, as opposed to a mutation of one, that has an id. -/
def OriginalFact.isBase (f : OriginalFact) : Bool :=
  decide (f.kind = messageKind ∧ f.messageId ≠ "")

def OriginalFact.identity (f : OriginalFact) : Identity := (f.senderAccountId, f.messageId)

namespace FactLog

def empty : FactLog := ⟨OrdMap.empty, OrdMap.empty⟩

def fact? (log : FactLog) (threadId fingerprint : String) : Option OriginalFact :=
  log.originals.get? (threadId, fingerprint)

/-- The index of a thread, an empty one if it has none. -/
def index (log : FactLog) (threadId : String) : OrdMap Identity IndexEntry :=
  (log.originalsIndex.get? threadId).getD OrdMap.empty

/-- The fingerprints that an index has under an identity. -/
def listed (log : FactLog) (threadId : String) (i : Identity) : List String :=
  (((log.index threadId).get? i).map IndexEntry.fingerprints).getD []

def withFact (log : FactLog) (f : OriginalFact) : FactLog :=
  { log with originals := log.originals.set (f.threadId, f.fingerprint) f }

def withIndex (log : FactLog) (threadId : String) (index : OrdMap Identity IndexEntry) :
    FactLog :=
  { log with originalsIndex := log.originalsIndex.set threadId index }

theorem fact?_withFact (log : FactLog) (f : OriginalFact) (threadId fp : String) :
    (log.withFact f).fact? threadId fp =
      if (threadId, fp) = (f.threadId, f.fingerprint) then some f else log.fact? threadId fp := by
  rw [fact?, withFact, OrdMap.get?_set]
  rfl

@[simp] theorem fact?_withIndex (log : FactLog) (t : String) (x : OrdMap Identity IndexEntry)
    (threadId fp : String) : (log.withIndex t x).fact? threadId fp = log.fact? threadId fp := rfl

@[simp] theorem index_withFact (log : FactLog) (f : OriginalFact) (threadId : String) :
    (log.withFact f).index threadId = log.index threadId := rfl

@[simp] theorem listed_withFact (log : FactLog) (f : OriginalFact) (threadId : String)
    (i : Identity) : (log.withFact f).listed threadId i = log.listed threadId i := rfl

theorem index_withIndex (log : FactLog) (t : String) (x : OrdMap Identity IndexEntry)
    (threadId : String) :
    (log.withIndex t x).index threadId = if threadId = t then x else log.index threadId := by
  rw [index, withIndex, OrdMap.get?_set]
  by_cases ht : threadId = t
  · rw [if_pos ht, if_pos ht]
    rfl
  · rw [if_neg ht, if_neg ht]
    rfl

end FactLog

/-! ## Appending -/

/-- The conflict that an append reports. -/
structure Conflict where
  senderAccountId : String
  messageId : String
  fingerprints : List String
  deriving DecidableEq

structure Appended where
  appended : Bool
  conflict : Option Conflict
  fact : OriginalFact

/-- The arguments of one call of `appendOriginalFact`. -/
structure AppendCall where
  threadId : String
  fact : NewFact

namespace AppendCall

/-- The arguments that the call insists on. -/
def valid (c : AppendCall) : Bool :=
  decide (trim c.threadId ≠ "" ∧ trim c.fact.fingerprint ≠ "" ∧ trim c.fact.payload.kind ≠ ""
    ∧ trim c.fact.payload.senderAccountId ≠ "")

/-- The row that is written. -/
def row (c : AppendCall) : OriginalFact where
  fingerprint := trim c.fact.fingerprint
  kind := trim c.fact.payload.kind
  threadId := trim c.threadId
  senderAccountId := trim c.fact.payload.senderAccountId
  messageId := trim c.fact.payload.messageId
  targetMessageId := trim c.fact.payload.targetMessageId
  targetFingerprint := trim c.fact.payload.targetFingerprint
  receivedAtMs := c.fact.receivedAtMs
  origin := if trim c.fact.origin = "" then "live" else trim c.fact.origin
  payload := c.fact.payload

end AppendCall

/-- An index entry with one more fingerprint. -/
def IndexEntry.with (entry : IndexEntry) (fingerprint : String) : IndexEntry :=
  let fingerprints :=
    if fingerprint ∈ entry.fingerprints then entry.fingerprints
    else entry.fingerprints ++ [fingerprint]
  ⟨fingerprints, entry.conflicted || decide (1 < fingerprints.length)⟩

/-- The entry of a fact's identity, once the fact is in it. -/
def entryWith (index : OrdMap Identity IndexEntry) (f : OriginalFact) : IndexEntry :=
  ((index.get? f.identity).getD ⟨[], false⟩).with f.fingerprint

/-- The conflict that an entry amounts to. -/
def conflictOf (f : OriginalFact) (entry : IndexEntry) : Option Conflict :=
  if 1 < entry.fingerprints.length then
    some ⟨f.senderAccountId, f.messageId, entry.fingerprints⟩
  else none

/-- The second half of an append: a base fact is put into the index of its thread. -/
def indexFact (f : OriginalFact) : Proc FactLog Appended := do
  let index ← await fun log : FactLog => (log.index f.threadId, log)
  await fun log =>
    ((), log.withIndex f.threadId (index.set f.identity (entryWith index f)))
  pure ⟨true, conflictOf f (entryWith index f), f⟩

/-- `appendOriginalFact`, once its arguments are checked and the fact is not there. -/
def recordFact (f : OriginalFact) : Proc FactLog Appended := do
  await fun log => ((), log.withFact f)
  if f.isBase then indexFact f else pure ⟨true, none, f⟩

/-- `appendOriginalFact`. -/
def appendOriginalFact (c : AppendCall) : Proc FactLog Appended :=
  if c.valid then do
    let existing ← await fun log : FactLog =>
      (log.fact? c.row.threadId c.row.fingerprint, log)
    match existing with
    | some f => pure ⟨false, none, f⟩
    | none => recordFact c.row
  else throw

/-! ## Reading back -/

/-- The fingerprints that the index has for a message id, of one author or of all. -/
def fingerprintsFor (index : OrdMap Identity IndexEntry) (messageId senderAccountId : String) :
    List String :=
  (((index.entries.filter fun e => decide (e.1.2 = messageId ∧
    (senderAccountId = "" ∨ e.1.1 = senderAccountId))).flatMap fun e =>
      e.2.fingerprints).filter fun fp => decide (fp ≠ "")).eraseDups

/-- The rows of these fingerprints that are there. -/
def loadFacts (threadId : String) : List String → Proc FactLog (List OriginalFact)
  | [] => pure []
  | fp :: fps => do
    let row ← await fun log : FactLog => (log.fact? threadId fp, log)
    let rows ← loadFacts threadId fps
    pure (row.toList ++ rows)

/-- `findBaseFactsByMessageId`; an empty account stands for none. -/
def findBaseFactsByMessageId (threadId messageId senderAccountId : String) :
    Proc FactLog (List OriginalFact) :=
  if trim threadId = "" ∨ trim messageId = "" then pure []
  else do
    let index ← await fun log : FactLog => (log.index (trim threadId), log)
    loadFacts (trim threadId) (fingerprintsFor index (trim messageId) (trim senderAccountId))

/-! ## What one attempt leaves

An attempt waits four times: for the fact, for its write, for the index, and for the write
of the index. Where it stops is decided by the fates of these waits. -/

/-- Where an attempt to append a new base fact stops. -/
inductive Stop where
  /-- Before the fact is stored. -/
  | before
  /-- With the fact stored and its index entry not. -/
  | torn
  /-- With both stored, but without returning. -/
  | late
  | returned
  deriving DecidableEq

/-- Where the fates of its waits make an attempt stop. -/
def stopOf : List Fate → Stop
  | [] => .returned
  | .ok :: [] => .returned
  | .ok :: .ok :: [] => .returned
  | .ok :: .ok :: .ok :: [] => .returned
  | .ok :: .ok :: .ok :: .ok :: _ => .returned
  | .ok :: .ok :: .ok :: .throwsLate :: _ => .late
  | .ok :: .ok :: .ok :: .throws :: _ => .torn
  | .ok :: .ok :: .ok :: .dies :: _ => .torn
  | .ok :: .ok :: .throws :: _ => .torn
  | .ok :: .ok :: .throwsLate :: _ => .torn
  | .ok :: .ok :: .dies :: _ => .torn
  | .ok :: .throwsLate :: _ => .torn
  | .ok :: .throws :: _ => .before
  | .ok :: .dies :: _ => .before
  | .throws :: _ => .before
  | .throwsLate :: _ => .before
  | .dies :: _ => .before

/-- The log with a base fact and its index entry. -/
def FactLog.withListed (log : FactLog) (f : OriginalFact) : FactLog :=
  (log.withFact f).withIndex f.threadId
    ((log.index f.threadId).set f.identity (entryWith (log.index f.threadId) f))

/-- What an attempt to append the new base fact `f` leaves, by where it stops. -/
def FactLog.after (log : FactLog) (f : OriginalFact) : Stop → FactLog
  | .before => log
  | .torn => log.withFact f
  | .late => log.withListed f
  | .returned => log.withListed f

/-- Whether an attempt returned, and what. -/
def returnedOf {α : Type} (e : Ending FactLog α) : Option α :=
  match e.outcome with
  | .returned a => some a
  | .threw => none
  | .died => none

/-- An attempt whose first wait is over goes on to record a fact that is not there. -/
theorem append_new {c : AppendCall} {log : FactLog} (hc : c.valid = true)
    (hnew : log.fact? c.row.threadId c.row.fingerprint = none) :
    (∀ fates, appendOriginalFact c (.ok :: fates) log = recordFact c.row fates log) ∧
      appendOriginalFact c [] log = recordFact c.row [] log := by
  have hgo : ∀ fates, (match log.fact? c.row.threadId c.row.fingerprint with
      | some f => pure ⟨false, none, f⟩
      | none => recordFact c.row : Proc FactLog Appended) fates log =
        recordFact c.row fates log := by
    intro fates
    rw [hnew]
  rw [appendOriginalFact, if_pos hc]
  exact ⟨hgo, hgo []⟩

theorem returnedOf_eq_some {α : Type} {e : Ending FactLog α} {a : α} :
    returnedOf e = some a ↔ e.outcome = .returned a := by
  obtain ⟨o, s, fates⟩ := e
  cases o with
  | returned b => simp [returnedOf]
  | threw => simp [returnedOf]
  | died => simp [returnedOf]

/-- **One attempt** to append a base fact that is not there: what it leaves, and what it
returns. -/
theorem attempt_new {c : AppendCall} {log : FactLog} (hc : c.valid = true)
    (hbase : c.row.isBase = true) (hnew : log.fact? c.row.threadId c.row.fingerprint = none)
    (fates : List Fate) :
    (appendOriginalFact c fates log).state = log.after c.row (stopOf fates) ∧
      returnedOf (appendOriginalFact c fates log) =
        if stopOf fates = .returned then
          some ⟨true, conflictOf c.row (entryWith (log.index c.row.threadId) c.row), c.row⟩
        else none := by
  obtain ⟨hok, hnil⟩ := append_new hc hnew
  have hbranch : (if c.row.isBase then indexFact c.row
      else pure ⟨true, none, c.row⟩ : Proc FactLog Appended) = indexFact c.row := if_pos hbase
  -- once the fates are known, an attempt runs by computation
  match fates with
  | [] => rw [hnil, recordFact, hbranch]; exact ⟨rfl, rfl⟩
  | .ok :: [] => rw [hok, recordFact, hbranch]; exact ⟨rfl, rfl⟩
  | .ok :: .ok :: [] => rw [hok, recordFact, hbranch]; exact ⟨rfl, rfl⟩
  | .ok :: .ok :: .ok :: [] => rw [hok, recordFact, hbranch]; exact ⟨rfl, rfl⟩
  | .ok :: .ok :: .ok :: .ok :: _ => rw [hok, recordFact, hbranch]; exact ⟨rfl, rfl⟩
  | .ok :: .ok :: .ok :: .throwsLate :: _ => rw [hok, recordFact, hbranch]; exact ⟨rfl, rfl⟩
  | .ok :: .ok :: .ok :: .throws :: _ => rw [hok, recordFact, hbranch]; exact ⟨rfl, rfl⟩
  | .ok :: .ok :: .ok :: .dies :: _ => rw [hok, recordFact, hbranch]; exact ⟨rfl, rfl⟩
  | .ok :: .ok :: .throws :: _ => rw [hok, recordFact, hbranch]; exact ⟨rfl, rfl⟩
  | .ok :: .ok :: .throwsLate :: _ => rw [hok, recordFact, hbranch]; exact ⟨rfl, rfl⟩
  | .ok :: .ok :: .dies :: _ => rw [hok, recordFact, hbranch]; exact ⟨rfl, rfl⟩
  | .ok :: .throwsLate :: _ => rw [hok, recordFact]; exact ⟨rfl, rfl⟩
  | .ok :: .throws :: _ => rw [hok, recordFact]; exact ⟨rfl, rfl⟩
  | .ok :: .dies :: _ => rw [hok, recordFact]; exact ⟨rfl, rfl⟩
  | .throws :: _ => rw [appendOriginalFact, if_pos hc]; exact ⟨rfl, rfl⟩
  | .throwsLate :: _ => rw [appendOriginalFact, if_pos hc]; exact ⟨rfl, rfl⟩
  | .dies :: _ => rw [appendOriginalFact, if_pos hc]; exact ⟨rfl, rfl⟩

section Attempts

variable {c : AppendCall} {log : FactLog}

/-- An attempt with arguments that are refused, or for a fact that is there, changes
nothing. -/
theorem attempt_there {f : OriginalFact} (hc : c.valid = true)
    (hf : log.fact? c.row.threadId c.row.fingerprint = some f) (fates : List Fate) :
    (appendOriginalFact c fates log).state = log ∧
      ∀ a, returnedOf (appendOriginalFact c fates log) = some a → a = ⟨false, none, f⟩ := by
  have hgo : ∀ fates, (match log.fact? c.row.threadId c.row.fingerprint with
      | some f => pure ⟨false, none, f⟩
      | none => recordFact c.row : Proc FactLog Appended) fates log =
        ⟨.returned ⟨false, none, f⟩, log, fates⟩ := by
    intro fates
    rw [hf]
    rfl
  rw [appendOriginalFact, if_pos hc]
  match fates with
  | [] =>
    refine ⟨congrArg Ending.state (hgo []), fun a ha => ?_⟩
    have hret := (congrArg returnedOf (hgo [])).symm.trans ha
    exact (some_inj.1 hret).symm
  | .ok :: fates =>
    refine ⟨congrArg Ending.state (hgo fates), fun a ha => ?_⟩
    have hret := (congrArg returnedOf (hgo fates)).symm.trans ha
    exact (some_inj.1 hret).symm
  | .throws :: _ => exact ⟨rfl, fun a ha => absurd ha (by simp [returnedOf, bind, andThen, await])⟩
  | .throwsLate :: _ => exact ⟨rfl, fun a ha => absurd ha (by simp [returnedOf, bind, andThen, await])⟩
  | .dies :: _ => exact ⟨rfl, fun a ha => absurd ha (by simp [returnedOf, bind, andThen, await])⟩

theorem attempt_refused (hc : c.valid = false) (fates : List Fate) :
    appendOriginalFact c fates log = ⟨.threw, log, fates⟩ := by
  rw [appendOriginalFact, hc]
  rfl

/-- The fact of a mutation is stored or it is not; there is no index entry to miss. -/
theorem attempt_mutation (hc : c.valid = true) (hbase : c.row.isBase = false)
    (hnew : log.fact? c.row.threadId c.row.fingerprint = none) (fates : List Fate) :
    (appendOriginalFact c fates log).state = log ∨
      (appendOriginalFact c fates log).state = log.withFact c.row := by
  obtain ⟨hok, hnil⟩ := append_new hc hnew
  have hbranch : (if c.row.isBase then indexFact c.row
      else pure ⟨true, none, c.row⟩ : Proc FactLog Appended) = pure ⟨true, none, c.row⟩ := by
    rw [hbase]
    rfl
  match fates with
  | [] => rw [hnil, recordFact, hbranch]; exact .inr rfl
  | .ok :: [] => rw [hok, recordFact, hbranch]; exact .inr rfl
  | .ok :: .ok :: _ => rw [hok, recordFact, hbranch]; exact .inr rfl
  | .ok :: .throwsLate :: _ => rw [hok, recordFact]; exact .inr rfl
  | .ok :: .throws :: _ => rw [hok, recordFact]; exact .inl rfl
  | .ok :: .dies :: _ => rw [hok, recordFact]; exact .inl rfl
  | .throws :: _ => rw [appendOriginalFact, if_pos hc]; exact .inl rfl
  | .throwsLate :: _ => rw [appendOriginalFact, if_pos hc]; exact .inl rfl
  | .dies :: _ => rw [appendOriginalFact, if_pos hc]; exact .inl rfl

end Attempts

/-! ## Retried calls -/

/-- A call with the fates of the attempts that may be interrupted. -/
structure Retried where
  call : AppendCall
  attempts : List (List Fate)

/-- A call is retried until an attempt returns; in the end one meets no failure. -/
def perform (c : AppendCall) : List (List Fate) → FactLog → FactLog × Option Appended
  | [], log => ((appendOriginalFact c [] log).state, returnedOf (appendOriginalFact c [] log))
  | fates :: rest, log =>
    match returnedOf (appendOriginalFact c fates log) with
    | some a => ((appendOriginalFact c fates log).state, some a)
    | none => perform c rest (appendOriginalFact c fates log).state

/-- The log after a retried call. -/
def appendStep (log : FactLog) (r : Retried) : FactLog := (perform r.call r.attempts log).1

/-! ### The law -/

/-- The index of every thread lists every base fact that is stored. -/
def Complete (log : FactLog) : Prop :=
  ∀ threadId fp f, log.fact? threadId fp = some f → f.isBase = true →
    fp ∈ log.listed threadId f.identity

/-- Looking for a message id, with or without its author, finds every base fact that is
stored for it: a search that returns has it, and a search that meets no failure returns. -/
def Finds (log : FactLog) : Prop :=
  ∀ threadId messageId sender fp f, log.fact? (trim threadId) fp = some f → f.isBase = true →
    f.messageId = trim messageId → (trim sender = "" ∨ f.senderAccountId = trim sender) →
    (∃ facts, returnedOf (findBaseFactsByMessageId threadId messageId sender [] log) =
      some facts) ∧
    ∀ fates facts, returnedOf (findBaseFactsByMessageId threadId messageId sender fates log) =
      some facts → f ∈ facts

/-- The call is for a base fact that is not there yet. -/
def IsNew (log : FactLog) (c : AppendCall) : Prop :=
  c.valid = true ∧ c.row.isBase = true ∧ log.fact? c.row.threadId c.row.fingerprint = none

/-- A second fact under one identity is reported as a conflict of both. -/
def Reports (log : FactLog) (r : Retried) : Prop :=
  IsNew log r.call → ∀ fp f, log.fact? r.call.row.threadId fp = some f → f.isBase = true →
    f.identity = r.call.row.identity →
    ∃ a k, (perform r.call r.attempts log).2 = some a ∧ a.conflict = some k ∧
      fp ∈ k.fingerprints ∧ r.call.row.fingerprint ∈ k.fingerprints

/-- What is asked of a retried call. -/
structure Recorded (log : FactLog) (r : Retried) : Prop where
  complete : Complete (appendStep log r)
  finds : Finds (appendStep log r)
  reports : Reports log r

/-! ### The condition -/

/-- Another base fact is stored under the identity of `f`. -/
def FactLog.others (log : FactLog) (f : OriginalFact) : Bool :=
  log.originals.entries.any fun e =>
    decide (e.1.1 = f.threadId ∧ e.2.isBase = true ∧ e.2.identity = f.identity)

/-- Where the first attempt stops that gets as far as to store the fact. -/
def stopOfAttempts : List (List Fate) → Stop
  | [] => .returned
  | fates :: rest =>
    match stopOf fates with
    | .before => stopOfAttempts rest
    | .torn => .torn
    | .late => .late
    | .returned => .returned

/-- That attempt does not stop with the index entry missing, nor, if there is a conflict to
report, without returning. -/
def unharmed (others : Bool) (attempts : List (List Fate)) : Bool :=
  match stopOfAttempts attempts with
  | .before => true
  | .torn => false
  | .late => !others
  | .returned => true

/-- No attempt to record a new base fact is stopped between its two writes, or before it
has reported a conflict. -/
def Whole (log : FactLog) (r : Retried) : Prop :=
  IsNew log r.call → unharmed (log.others r.call.row) r.attempts = true

/-! ## The index as a set -/

section Index

variable {log : FactLog} {f : OriginalFact} {fp threadId : String} {i : Identity}

theorem mem_entry_with {entry : IndexEntry} :
    fp ∈ (entry.with f.fingerprint).fingerprints ↔
      fp = f.fingerprint ∨ fp ∈ entry.fingerprints := by
  rw [IndexEntry.with]
  by_cases hmem : f.fingerprint ∈ entry.fingerprints
  · simp only [if_pos hmem]
    refine ⟨.inr, ?_⟩
    rintro (rfl | h)
    · exact hmem
    · exact h
  · simp only [if_neg hmem, mem_append, mem_singleton]
    exact or_comm

theorem mem_entryWith : fp ∈ (entryWith (log.index threadId) f).fingerprints ↔
    fp = f.fingerprint ∨ fp ∈ log.listed threadId f.identity := by
  rw [entryWith, mem_entry_with, FactLog.listed]
  cases (log.index threadId).get? f.identity with
  | none => rfl
  | some entry => rfl

theorem mem_listed_withListed : fp ∈ (log.withListed f).listed threadId i ↔
    (fp = f.fingerprint ∧ threadId = f.threadId ∧ i = f.identity) ∨
      fp ∈ log.listed threadId i := by
  rw [FactLog.withListed, FactLog.listed, FactLog.index_withIndex]
  by_cases ht : threadId = f.threadId
  · rw [if_pos ht, OrdMap.get?_set, ht]
    by_cases hi : i = f.identity
    · rw [if_pos hi, hi]
      simp only [map_some, getD_some]
      rw [mem_entryWith]
      simp
    · rw [if_neg hi]
      simp [hi, FactLog.listed]
  · rw [if_neg ht]
    simp [ht, FactLog.listed]

@[simp] theorem fact?_withListed : (log.withListed f).fact? = (log.withFact f).fact? := rfl

theorem fact?_withFact_self :
    (log.withFact f).fact? f.threadId f.fingerprint = some f := by
  rw [FactLog.fact?_withFact, if_pos rfl]

/-- A fact that was there is there when another one is stored. -/
theorem fact?_withFact_of {g : OriginalFact} (hnew : log.fact? f.threadId f.fingerprint = none)
    (hg : log.fact? threadId fp = some g) : (log.withFact f).fact? threadId fp = some g := by
  rw [FactLog.fact?_withFact, if_neg]
  · exact hg
  · intro heq
    rw [(Prod.mk.inj heq).1, (Prod.mk.inj heq).2, hnew] at hg
    exact absurd hg (by simp)

theorem fact?_withFact_cases {g : OriginalFact}
    (hg : (log.withFact f).fact? threadId fp = some g) :
    (threadId = f.threadId ∧ fp = f.fingerprint ∧ g = f) ∨ log.fact? threadId fp = some g := by
  rw [FactLog.fact?_withFact] at hg
  by_cases heq : (threadId, fp) = (f.threadId, f.fingerprint)
  · rw [if_pos heq] at hg
    exact .inl ⟨(Prod.mk.inj heq).1, (Prod.mk.inj heq).2, (some_inj.1 hg).symm⟩
  · rw [if_neg heq] at hg
    exact .inr hg

end Index

/-- What no attempt can break: a fact is stored under its own thread and fingerprint, and
the index only lists base facts that are stored. -/
structure Sound (log : FactLog) : Prop where
  keyed : ∀ threadId fp f, log.fact? threadId fp = some f →
    f.threadId = threadId ∧ f.fingerprint = fp ∧ threadId ≠ "" ∧ fp ≠ ""
  stored : ∀ threadId i fp, fp ∈ log.listed threadId i →
    ∃ f, log.fact? threadId fp = some f ∧ f.isBase = true ∧ f.identity = i

theorem sound_empty : Sound FactLog.empty where
  keyed threadId fp f h := absurd h (by simp [FactLog.fact?, FactLog.empty])
  stored threadId i fp h :=
    absurd h (by simp [FactLog.listed, FactLog.index, FactLog.empty])

theorem complete_empty : Complete FactLog.empty := fun _ _ _ h =>
  absurd h (by simp [FactLog.fact?, FactLog.empty])

section Keeps

variable {log : FactLog} {c : AppendCall}

theorem AppendCall.row_ne (hc : c.valid = true) :
    c.row.threadId ≠ "" ∧ c.row.fingerprint ≠ "" :=
  have h := of_decide_eq_true hc
  ⟨h.1, h.2.1⟩

/-- A fact that is stored alone. -/
theorem Sound.withFact (h : Sound log) (hc : c.valid = true)
    (hnew : log.fact? c.row.threadId c.row.fingerprint = none) : Sound (log.withFact c.row) where
  keyed threadId fp f hf := by
    rcases fact?_withFact_cases hf with ⟨rfl, rfl, rfl⟩ | hf
    · exact ⟨rfl, rfl, AppendCall.row_ne hc⟩
    · exact h.keyed threadId fp f hf
  stored threadId i fp hfp := by
    obtain ⟨f, hf, hrest⟩ := h.stored threadId i fp hfp
    exact ⟨f, fact?_withFact_of hnew hf, hrest⟩

/-- A base fact that is stored with its index entry. -/
theorem Sound.withListed (h : Sound log) (hc : c.valid = true) (hbase : c.row.isBase = true)
    (hnew : log.fact? c.row.threadId c.row.fingerprint = none) :
    Sound (log.withListed c.row) where
  keyed := (h.withFact hc hnew).keyed
  stored threadId i fp hfp := by
    rcases mem_listed_withListed.1 hfp with ⟨rfl, rfl, rfl⟩ | hfp
    · exact ⟨c.row, fact?_withFact_self, hbase, rfl⟩
    · exact (h.withFact hc hnew).stored threadId i fp hfp

theorem Complete.withListed {f : OriginalFact} (h : Complete log) : Complete (log.withListed f) := by
  intro threadId fp g hg hbase
  rcases fact?_withFact_cases hg with ⟨rfl, rfl, rfl⟩ | hg
  · exact mem_listed_withListed.2 (.inl ⟨rfl, rfl, rfl⟩)
  · exact mem_listed_withListed.2 (.inr (h threadId fp g hg hbase))

/-- The index does not look at the fact of a mutation. -/
theorem Complete.withMutation {f : OriginalFact} (h : Complete log) (hbase : f.isBase = false) :
    Complete (log.withFact f) := by
  intro threadId fp g hg hgbase
  rcases fact?_withFact_cases hg with ⟨rfl, rfl, rfl⟩ | hg
  · rw [hbase] at hgbase
    exact Bool.noConfusion hgbase
  · exact h threadId fp g hg hgbase

/-- A new base fact that is stored without its index entry is missing from the index. -/
theorem not_complete_withFact (h : Sound log) (hnew : IsNew log c) :
    ¬ Complete (log.withFact c.row) := by
  intro hcomplete
  have hlisted : c.row.fingerprint ∈ log.listed c.row.threadId c.row.identity :=
    hcomplete _ _ _ fact?_withFact_self hnew.2.1
  obtain ⟨f, hf, _⟩ := h.stored _ _ _ hlisted
  rw [hnew.2.2] at hf
  exact absurd hf (by simp)

end Keeps

/-! ## Searching -/

section Searching

variable {log : FactLog} {f : OriginalFact} {threadId fp : String}

/-- A search that meets no failure loads every row. -/
theorem loadFacts_reliable (threadId : String) (log : FactLog) : ∀ fps : List String,
    ∃ rows, loadFacts threadId fps [] log = ⟨.returned rows, log, []⟩
  | [] => ⟨[], rfl⟩
  | fp :: fps => by
    obtain ⟨rows, hrows⟩ := loadFacts_reliable threadId log fps
    refine ⟨(log.fact? threadId fp).toList ++ rows, ?_⟩
    show andThen (loadFacts threadId fps)
      (fun rows => pure ((log.fact? threadId fp).toList ++ rows)) [] log = _
    rw [andThen, hrows]
    rfl

/-- What a load returns has the rows of all the fingerprints, and it changes nothing. -/
theorem loadFacts_returns (threadId : String) : ∀ fps : List String,
    wp (loadFacts threadId fps) (fun rows s => s = log ∧
      ∀ fp ∈ fps, ∀ f, log.fact? threadId fp = some f → f ∈ rows)
      (fun _ => True) (fun _ => True) log
  | [] => wp_pure ⟨rfl, fun _ h => absurd h not_mem_nil⟩
  | fp :: fps => by
    rw [loadFacts]
    refine wp_bind (wp_await_read ?_ trivial trivial)
    refine wp_bind (wp_mono (loadFacts_returns threadId fps) ?_ (fun _ _ => trivial)
      (fun _ _ => trivial))
    rintro rows _ ⟨rfl, hrows⟩
    refine wp_pure ⟨rfl, fun fp' hfp' f hf => ?_⟩
    rcases mem_cons.1 hfp' with rfl | hmem
    · rw [hf]
      exact mem_append_left _ (mem_singleton_self f)
    · exact mem_append_right _ (hrows fp' hmem f hf)

/-- The search asks for the fingerprints that the index lists under the identity. -/
theorem mem_fingerprintsFor {sender : String} {i : Identity} (hfp : fp ∈ log.listed threadId i)
    (hne : fp ≠ "") (hsender : sender = "" ∨ i.1 = sender) :
    fp ∈ fingerprintsFor (log.index threadId) i.2 sender := by
  rw [FactLog.listed] at hfp
  cases hget : (log.index threadId).get? i with
  | none => rw [hget] at hfp; exact absurd hfp not_mem_nil
  | some entry =>
    rw [hget] at hfp
    rw [fingerprintsFor, mem_eraseDups, mem_filter, mem_flatMap]
    refine ⟨⟨(i, entry), ?_, hfp⟩, decide_eq_true hne⟩
    rw [mem_filter]
    exact ⟨OrdMap.mem_entries_iff.2 hget, decide_eq_true ⟨rfl, hsender⟩⟩

/-- A log with a complete index is searched completely. -/
theorem Complete.finds (h : Complete log) (hs : Sound log) : Finds log := by
  intro threadId messageId sender fp f hf hbase hmid hsender
  obtain ⟨_, _, hthread, hne⟩ := hs.keyed _ _ _ hf
  have hlisted := h _ _ _ hf hbase
  have hmem : fp ∈ fingerprintsFor (log.index (trim threadId)) (trim messageId) (trim sender) := by
    have := mem_fingerprintsFor hlisted hne hsender
    rwa [show f.identity.2 = trim messageId from hmid] at this
  -- the thread of a fact and the id of a message are never empty
  have hargs : ¬ (trim threadId = "" ∨ trim messageId = "") := by
    rw [not_or, ← hmid]
    exact ⟨hthread, (of_decide_eq_true hbase).2⟩
  constructor
  · obtain ⟨rows, hrows⟩ := loadFacts_reliable (trim threadId) log
      (fingerprintsFor (log.index (trim threadId)) (trim messageId) (trim sender))
    refine ⟨rows, ?_⟩
    rw [findBaseFactsByMessageId, if_neg hargs]
    exact congrArg returnedOf hrows
  · intro fates facts hfacts
    have hwp : wp (findBaseFactsByMessageId threadId messageId sender)
        (fun rows _ => f ∈ rows) (fun _ => True) (fun _ => True) log := by
      rw [findBaseFactsByMessageId, if_neg hargs]
      refine wp_bind (wp_await_read ?_ trivial trivial)
      exact wp_mono (loadFacts_returns (trim threadId) _)
        (fun rows _ hrows => hrows.2 fp hmem f hf) (fun _ _ => trivial) (fun _ _ => trivial)
    exact wp_returned hwp (returnedOf_eq_some.1 hfacts)

end Searching

/-! ## Retried calls, by where their attempts stop -/

section Perform

variable {c : AppendCall} {log : FactLog}

/-- A call that is refused changes nothing. -/
theorem perform_refused (hc : c.valid = false) :
    ∀ attempts, (perform c attempts log).1 = log
  | [] => by rw [perform, attempt_refused hc]
  | fates :: rest => by
    rw [perform, attempt_refused hc]
    exact perform_refused hc rest

/-- A call for a fact that is there changes nothing, and reports nothing. -/
theorem perform_there {f : OriginalFact} (hc : c.valid = true)
    (hf : log.fact? c.row.threadId c.row.fingerprint = some f) :
    ∀ attempts, (perform c attempts log).1 = log ∧
      ∀ a, (perform c attempts log).2 = some a → a.conflict = none
  | [] => by
    obtain ⟨hstate, hret⟩ := attempt_there hc hf []
    exact ⟨hstate, fun a ha => by rw [hret a ha]⟩
  | fates :: rest => by
    obtain ⟨hstate, hret⟩ := attempt_there hc hf fates
    rw [perform]
    cases hr : returnedOf (appendOriginalFact c fates log) with
    | some a =>
      refine ⟨hstate, fun b hb => ?_⟩
      rw [← some_inj.1 hb, hret a hr]
    | none =>
      dsimp only
      rw [hstate]
      exact perform_there hc hf rest

/-- The fact of a mutation is stored in the end, or was there. -/
theorem perform_mutation (hc : c.valid = true) (hbase : c.row.isBase = false)
    (hnew : log.fact? c.row.threadId c.row.fingerprint = none) :
    ∀ attempts, (perform c attempts log).1 = log ∨
      (perform c attempts log).1 = log.withFact c.row
  | [] => attempt_mutation hc hbase hnew []
  | fates :: rest => by
    rw [perform]
    rcases attempt_mutation hc hbase hnew fates with hstate | hstate
    · cases returnedOf (appendOriginalFact c fates log) with
      | some a => exact .inl hstate
      | none =>
        dsimp only
        rw [hstate]
        exact perform_mutation hc hbase hnew rest
    · cases returnedOf (appendOriginalFact c fates log) with
      | some a => exact .inr hstate
      | none =>
        dsimp only
        rw [hstate]
        exact .inr (perform_there hc fact?_withFact_self rest).1

/-- **A retried call for a new base fact.** What it leaves, and what it returns, is decided
by the attempt that stored the fact: a later one finds it there. -/
theorem perform_new (hnew : IsNew log c) :
    ∀ attempts, (perform c attempts log).1 = log.after c.row (stopOfAttempts attempts) ∧
      (stopOfAttempts attempts = .returned → (perform c attempts log).2 =
        some ⟨true, conflictOf c.row (entryWith (log.index c.row.threadId) c.row), c.row⟩) ∧
      (stopOfAttempts attempts ≠ .returned →
        ∀ a, (perform c attempts log).2 = some a → a.conflict = none)
  | [] => by
    obtain ⟨hstate, hret⟩ := attempt_new hnew.1 hnew.2.1 hnew.2.2 []
    exact ⟨hstate, fun _ => hret, fun h => absurd rfl h⟩
  | fates :: rest => by
    obtain ⟨hstate, hret⟩ := attempt_new hnew.1 hnew.2.1 hnew.2.2 fates
    rw [perform, stopOfAttempts]
    cases hstop : stopOf fates with
    | before =>
      rw [hstop] at hstate hret
      rw [show returnedOf (appendOriginalFact c fates log) = none from hret]
      dsimp only
      rw [hstate]
      exact perform_new hnew rest
    | torn =>
      rw [hstop] at hstate hret
      rw [show returnedOf (appendOriginalFact c fates log) = none from hret]
      dsimp only
      rw [hstate]
      have hfound : (log.withFact c.row).fact? c.row.threadId c.row.fingerprint = some c.row :=
        fact?_withFact_self
      obtain ⟨hrest, hreturns⟩ := perform_there hnew.1 hfound rest
      exact ⟨hrest, fun h => Stop.noConfusion h, fun _ => hreturns⟩
    | late =>
      rw [hstop] at hstate hret
      rw [show returnedOf (appendOriginalFact c fates log) = none from hret]
      dsimp only
      rw [hstate]
      have hfound : (log.withListed c.row).fact? c.row.threadId c.row.fingerprint = some c.row :=
        fact?_withFact_self
      obtain ⟨hrest, hreturns⟩ := perform_there hnew.1 hfound rest
      exact ⟨hrest, fun h => Stop.noConfusion h, fun _ => hreturns⟩
    | returned =>
      rw [hstop] at hstate hret
      rw [show returnedOf (appendOriginalFact c fates log) = some _ from hret]
      exact ⟨hstate, fun _ => rfl, fun h => absurd rfl h⟩

theorem stopOfAttempts_ne_before : ∀ attempts, stopOfAttempts attempts ≠ .before
  | [] => Stop.noConfusion
  | fates :: rest => by
    rw [stopOfAttempts]
    cases stopOf fates with
    | before => exact stopOfAttempts_ne_before rest
    | torn => exact Stop.noConfusion
    | late => exact Stop.noConfusion
    | returned => exact Stop.noConfusion

theorem others_iff {f : OriginalFact} : log.others f = true ↔
    ∃ fp g, log.fact? f.threadId fp = some g ∧ g.isBase = true ∧ g.identity = f.identity := by
  rw [FactLog.others, List.any_eq_true]
  constructor
  · rintro ⟨⟨⟨threadId, fp⟩, g⟩, hmem, hg⟩
    obtain ⟨rfl, hbase, hid⟩ := of_decide_eq_true hg
    exact ⟨fp, g, OrdMap.mem_entries_iff.1 hmem, hbase, hid⟩
  · rintro ⟨fp, g, hg, hbase, hid⟩
    exact ⟨((f.threadId, fp), g), OrdMap.mem_entries_iff.2 hg, decide_eq_true ⟨rfl, hbase, hid⟩⟩

end Perform

/-! ## The log under retried calls -/

section Law

variable {log : FactLog} {r : Retried}

/-- Whatever interrupts a call, the log stays sound. -/
theorem Sound.appendStep (h : Sound log) (r : Retried) : Sound (appendStep log r) := by
  obtain ⟨c, attempts⟩ := r
  show Sound (perform c attempts log).1
  by_cases hc : c.valid = true
  · cases hf : log.fact? c.row.threadId c.row.fingerprint with
    | some f => rw [(perform_there hc hf attempts).1]; exact h
    | none =>
      by_cases hbase : c.row.isBase = true
      · rw [(perform_new ⟨hc, hbase, hf⟩ attempts).1]
        cases stopOfAttempts attempts with
        | before => exact h
        | torn => exact h.withFact hc hf
        | late => exact h.withListed hc hbase hf
        | returned => exact h.withListed hc hbase hf
      · rcases perform_mutation hc (Bool.eq_false_of_not_eq_true hbase) hf attempts with hs | hs
        · rw [hs]; exact h
        · rw [hs]; exact h.withFact hc hf
  · rw [perform_refused (Bool.eq_false_of_not_eq_true hc)]
    exact h

/-- A call that is not for a new base fact cannot harm a complete index. -/
theorem Complete.appendStep_of_not_isNew (h : Complete log) (hnew : ¬ IsNew log r.call) :
    Complete (appendStep log r) := by
  obtain ⟨c, attempts⟩ := r
  show Complete (perform c attempts log).1
  by_cases hc : c.valid = true
  · cases hf : log.fact? c.row.threadId c.row.fingerprint with
    | some f => rw [(perform_there hc hf attempts).1]; exact h
    | none =>
      have hbase : c.row.isBase = false :=
        Bool.eq_false_of_not_eq_true fun hbase => hnew ⟨hc, hbase, hf⟩
      rcases perform_mutation hc hbase hf attempts with hs | hs
      · rw [hs]; exact h
      · rw [hs]; exact h.withMutation hbase
  · rw [perform_refused (Bool.eq_false_of_not_eq_true hc)]
    exact h

/-- With two fingerprints in it, an entry is a conflict of both. -/
theorem conflictOf_entryWith {fp : String} {f : OriginalFact}
    (hfp : fp ∈ log.listed f.threadId f.identity) (hne : fp ≠ f.fingerprint) :
    ∃ k, conflictOf f (entryWith (log.index f.threadId) f) = some k ∧
      fp ∈ k.fingerprints ∧ f.fingerprint ∈ k.fingerprints := by
  have hmem : fp ∈ (entryWith (log.index f.threadId) f).fingerprints := mem_entryWith.2 (.inr hfp)
  have hself : f.fingerprint ∈ (entryWith (log.index f.threadId) f).fingerprints :=
    mem_entryWith.2 (.inl rfl)
  have hlen : 1 < (entryWith (log.index f.threadId) f).fingerprints.length := by
    by_contra hle
    obtain ⟨x, hx⟩ | hnil : (∃ x, (entryWith (log.index f.threadId) f).fingerprints = [x]) ∨
        (entryWith (log.index f.threadId) f).fingerprints = [] := by
      match h : (entryWith (log.index f.threadId) f).fingerprints with
      | [] => exact .inr rfl
      | [x] => exact .inl ⟨x, rfl⟩
      | x :: y :: l => rw [h] at hle; simp at hle
    · rw [hx, mem_singleton] at hmem hself
      exact hne (hmem.trans hself.symm)
    · rw [hnil] at hmem
      exact not_mem_nil hmem
  exact ⟨_, if_pos hlen, hmem, hself⟩

/-- **One retried call.** In a log whose index is complete, a call is recorded as it should
be exactly if no attempt of it is stopped in the wrong place. -/
theorem recorded_iff (hs : Sound log) (hcomplete : Complete log) :
    Recorded log r ↔ Whole log r := by
  obtain ⟨c, attempts⟩ := r
  by_cases hnew : IsNew log c
  · obtain ⟨hstate, hret, hlost⟩ := perform_new hnew attempts
    have hstep : appendStep log ⟨c, attempts⟩ = log.after c.row (stopOfAttempts attempts) := hstate
    have hwhole : Whole log ⟨c, attempts⟩ ↔ unharmed (log.others c.row) attempts = true :=
      ⟨fun h => h hnew, fun h _ => h⟩
    rw [hwhole, unharmed]
    cases hstop : stopOfAttempts attempts with
    | before => exact absurd hstop (stopOfAttempts_ne_before attempts)
    | torn =>
      refine iff_of_false (fun h => ?_) Bool.false_ne_true
      have hbad := h.complete
      rw [hstep, hstop] at hbad
      exact not_complete_withFact hs hnew hbad
    | late =>
      have hafter : appendStep log ⟨c, attempts⟩ = log.withListed c.row := by
        rw [hstep, hstop]; rfl
      have hgood : Complete (appendStep log ⟨c, attempts⟩) := hafter ▸ hcomplete.withListed
      have hno := hlost (by rw [hstop]; exact Stop.noConfusion)
      constructor
      · intro h
        -- a conflict that there was to report was not
        cases hothers : log.others c.row with
        | false => rfl
        | true =>
          obtain ⟨fp, g, hg, hbase, hid⟩ := others_iff.1 hothers
          obtain ⟨a, k, ha, hk, _⟩ := h.reports hnew fp g hg hbase hid
          rw [hno a ha] at hk
          exact absurd hk (by simp)
      · intro h
        refine ⟨hgood, hgood.finds (hs.appendStep _), fun _ fp g hg hbase hid => ?_⟩
        have hothers : log.others c.row = true := others_iff.2 ⟨fp, g, hg, hbase, hid⟩
        rw [hothers] at h
        exact absurd h Bool.false_ne_true
    | returned =>
      have hafter : appendStep log ⟨c, attempts⟩ = log.withListed c.row := by
        rw [hstep, hstop]; rfl
      have hgood : Complete (appendStep log ⟨c, attempts⟩) := hafter ▸ hcomplete.withListed
      refine iff_of_true ⟨hgood, hgood.finds (hs.appendStep _), fun _ fp g hg hbase hid => ?_⟩ rfl
      have hlisted : fp ∈ log.listed c.row.threadId c.row.identity := by
        have := hcomplete _ _ _ hg hbase
        rwa [hid] at this
      have hne : fp ≠ c.row.fingerprint := by
        rintro rfl
        rw [hnew.2.2] at hg
        exact absurd hg (by simp)
      obtain ⟨k, hk, hboth⟩ := conflictOf_entryWith hlisted hne
      exact ⟨_, k, hret hstop, hk, hboth⟩
  · have hgood := hcomplete.appendStep_of_not_isNew (r := ⟨c, attempts⟩) hnew
    exact iff_of_true ⟨hgood, hgood.finds (hs.appendStep _), fun h => absurd h hnew⟩
      fun h => absurd h hnew

/-- A run of retried calls from a log that is sound and complete. -/
theorem meets_recorded_iff : ∀ (rs : List Retried) (log : FactLog), Sound log → Complete log →
    (Runs.Meets appendStep Recorded log rs ↔ Runs.Meets appendStep Whole log rs)
  | [], _, _, _ => .rfl
  | r :: rs, log, hs, hcomplete => by
    have hiff := recorded_iff (r := r) hs hcomplete
    constructor
    · rintro ⟨hrec, hrest⟩
      exact ⟨hiff.1 hrec, (meets_recorded_iff rs _ (hs.appendStep r) hrec.complete).1 hrest⟩
    · rintro ⟨hwhole, hrest⟩
      have hrec := hiff.2 hwhole
      exact ⟨hrec, (meets_recorded_iff rs _ (hs.appendStep r) hrec.complete).2 hrest⟩

end Law

/-- **The log under crashes.** Whatever calls are made and wherever their attempts are
interrupted, after every retried call the index lists every stored base fact, a search finds
them all, and a second fact of an identity is reported as a conflict, if and only if no
attempt of the run is stopped between its two writes, or with a conflict unreported. -/
theorem appends_consistent_iff (rs : List Retried) :
    Runs.Meets appendStep Recorded FactLog.empty rs ↔
      Runs.Meets appendStep Whole FactLog.empty rs :=
  meets_recorded_iff rs FactLog.empty sound_empty complete_empty

/-! ### A torn append -/

/-- Two texts that Alice signed under one message id. -/
def aliceSigned (fingerprint : String) : AppendCall where
  threadId := "t1"
  fact := ⟨fingerprint, ⟨messageKind, "alice", "m1", "", ""⟩, 1, ""⟩

/-- **A torn append.** The process dies between the two writes of the first call, which is
retried. The fact is in the log and not in the index; nothing is found for its message id,
and the second text that Alice signed under that id is not reported as a conflict. -/
theorem torn_append :
    let log := appendStep FactLog.empty ⟨aliceSigned "fp1", [[.ok, .ok, .dies]]⟩
    log.fact? "t1" "fp1" = some (aliceSigned "fp1").row ∧
      log.listed "t1" ("alice", "m1") = [] ∧
      returnedOf (findBaseFactsByMessageId "t1" "m1" "" [] log) = some [] ∧
      (perform (aliceSigned "fp2") [] log).2.map Appended.conflict = some none ∧
      ¬ Runs.Meets appendStep Recorded FactLog.empty
        [⟨aliceSigned "fp1", [[.ok, .ok, .dies]]⟩] := by
  intro log
  have hfact : log.fact? "t1" "fp1" = some (aliceSigned "fp1").row := by decide
  have hlisted : log.listed "t1" ("alice", "m1") = [] := by decide
  refine ⟨hfact, hlisted, by decide, by decide, ?_⟩
  rintro ⟨hrecorded, _⟩
  have hmem : "fp1" ∈ log.listed "t1" ("alice", "m1") :=
    hrecorded.complete "t1" "fp1" _ hfact (by decide)
  rw [hlisted] at hmem
  exact not_mem_nil hmem

end RezChat.Messages
