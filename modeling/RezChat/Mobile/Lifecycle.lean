/-
The mobile lifecycle adapter (`runtime/MobileLifecycleAdapter.js`).

A host tells the adapter of a resume, a network change or a push wake through a hook. All the
hooks funnel into one loop of converge passes: a hook that finds the loop running only sets a
dirty bit, and the loop makes another pass when it finds the bit set. A pass calls five directives
of the bus in a fixed order and ends with a report.

The loop is an asynchronous function, so everything between two of its awaits is one step here.
It decides to stop in one step, and clears `#running` in another, which `finally` takes later. A
hook between the two sets the dirty bit of a loop that looks at it no more: it is absorbed, and no
pass follows it (`wake_absorbed`). Where no hook falls between them, every hook is followed by a
whole pass that started after it (`run_losesNoWake`).

Every loop that was ever started keeps its place in `loops`, so that two passes could overlap if
the code let them. `hooks`, `passes`, `turns` and `heard` are records of what happened, which no
step of the code reads. A hook that a directive calls synchronously comes after the step in which
the directive was called. Backgrounding runs no pass and touches none of this state.
-/
import RezChat.Lib.Runs
import RezChat.Lib.Table

set_option autoImplicit false

namespace RezChat.Mobile

open List Table Bool Runs Prod

/-! ## The directives and the report -/

/-- The five directives of a pass. -/
inductive Directive where
  | ensureLive
  | renewLeaseIfDue
  | drain
  | commitSweep
  | siblingSync
  deriving DecidableEq

namespace Directive

/-- The namespace and the name under which the bus has it. -/
def target : Directive → String × String
  | ensureLive => ("runtime", "ensureLive")
  | renewLeaseIfDue => ("runtime", "renewLeaseIfDue")
  | drain => ("inbox", "drain")
  | commitSweep => ("message.commit", "sweep")
  | siblingSync => ("sibling-sync", "syncAll")

/-- The frozen order. -/
def order : List Directive := [ensureLive, renewLeaseIfDue, drain, commitSweep, siblingSync]

def next : Directive → Option Directive
  | ensureLive => some renewLeaseIfDue
  | renewLeaseIfDue => some drain
  | drain => some commitSweep
  | commitSweep => some siblingSync
  | siblingSync => none

/-- What comes before it in a pass. -/
def earlier : Directive → List Directive
  | ensureLive => []
  | renewLeaseIfDue => [ensureLive]
  | drain => [ensureLive, renewLeaseIfDue]
  | commitSweep => [ensureLive, renewLeaseIfDue, drain]
  | siblingSync => [ensureLive, renewLeaseIfDue, drain, commitSweep]

/-- How many awaits of a pass are left while it awaits this one. -/
def left : Directive → Nat
  | ensureLive => 5
  | renewLeaseIfDue => 4
  | drain => 3
  | commitSweep => 2
  | siblingSync => 1

end Directive

/-- What a bus call threw: the message of the error, if it has one, and its text. -/
structure Thrown where
  message : String
  text : String

/-- `err && err.message ? err.message : String(err)`. -/
def Thrown.describe (err : Thrown) : String :=
  if err.message = "" then err.text else err.message

/-- What a report says of a step: `ok`, with the result where there is one, `ok` and skipped, or
not `ok`, with the error. -/
inductive StepReport (ρ : Type) where
  | ok (result : Option ρ)
  | skipped
  | failed (error : String)

/-- The report of a pass. -/
structure Report (ρ : Type) where
  reasons : List String
  startedAtMs : Nat
  steps : List (Directive × StepReport ρ)
  live : Bool

variable {ρ : Type}

namespace Report

def add (report : Report ρ) (d : Directive) (r : StepReport ρ) : Report ρ :=
  { report with steps := report.steps ++ [(d, r)] }

def goLive (report : Report ρ) : Report ρ :=
  { report.add .ensureLive (.ok none) with live := true }

/-- The report of a whole pass: it was cut short because the runtime is not live, or it speaks of
each directive, in the frozen order. -/
def Complete (report : Report ρ) : Prop :=
  (report.live = false ∧ report.steps.map fst = [.ensureLive]) ∨
    (report.live = true ∧ report.steps.map fst = Directive.order)

end Report

/-! ## One pass -/

/-- What the code reads of its surroundings: what the bus has, and the clock. -/
structure Host where
  has : String × String → Bool
  now : Nat

/-- How far `#convergeOnce` is: it awaits a directive, which it called unless the bus does not
have it, or it has returned. -/
inductive Pass (ρ : Type) where
  | awaiting (d : Directive) (called : Bool) (report : Report ρ)
  | returned (report : Report ρ)

namespace Pass

/-- `#step`, up to the await. -/
def enter (host : Host) (d : Directive) (report : Report ρ) : Pass ρ :=
  if host.has d.target then .awaiting d true report
  else .awaiting d false (report.add d .skipped)

/-- `#convergeOnce`, up to its first await. -/
def begin (host : Host) (reasons : List String) : Pass ρ :=
  let report : Report ρ := ⟨reasons, host.now, [], false⟩
  if host.has Directive.ensureLive.target then .awaiting .ensureLive true report
  else enter host .renewLeaseIfDue report.goLive

/-- What a directive came to is written down. -/
def outcomeReport : Except Thrown ρ → StepReport ρ
  | .ok result => .ok (some result)
  | .error err => .failed err.describe

/-- `#convergeOnce` goes on after an await, up to the next one. A failed `ensureLive` ends the
pass; a later step that fails does not. -/
def resume (host : Host) (outcome : Except Thrown ρ) : Directive → Bool → Report ρ → Pass ρ
  | .ensureLive, _, report =>
    match outcome with
    | .ok _ => enter host .renewLeaseIfDue report.goLive
    | .error err => .returned (report.add .ensureLive (.failed err.describe))
  | d, called, report =>
    let report := if called then report.add d (outcomeReport outcome) else report
    match d.next with
    | some d => enter host d report
    | none => .returned report

def left : Pass ρ → Nat
  | .awaiting d _ _ => d.left
  | .returned _ => 0

/-- What the report of a pass says as far as the pass has come. -/
def Fit : Pass ρ → Prop
  | .awaiting d called report =>
    report.live = decide (d ≠ .ensureLive) ∧
      report.steps.map fst = d.earlier ++ (if called then [] else [d]) ∧
      (d = .ensureLive → called = true)
  | .returned report => report.Complete

variable {d : Directive} {report : Report ρ}

theorem fit_enter (host : Host) (hd : d ≠ .ensureLive)
    (hlive : report.live = true) (hsteps : report.steps.map fst = d.earlier) :
    (enter host d report).Fit := by
  rw [enter]
  by_cases hhas : host.has d.target = true
  · rw [if_pos hhas]
    exact ⟨by rw [hlive, decide_eq_true hd], by simp [hsteps], fun h => absurd h hd⟩
  · rw [if_neg hhas]
    exact ⟨by rw [Report.add, hlive, decide_eq_true hd], by simp [Report.add, hsteps],
      fun h => absurd h hd⟩

theorem fit_begin (host : Host) (reasons : List String) : (begin host reasons : Pass ρ).Fit := by
  rw [begin]
  by_cases hhas : host.has Directive.ensureLive.target = true
  · rw [if_pos hhas]
    exact ⟨rfl, rfl, fun _ => rfl⟩
  · rw [if_neg hhas]
    exact fit_enter host (by decide) rfl rfl

/-- The steps a pass has reported on when the await of `d` is over. -/
theorem steps_outcome (outcome : Except Thrown ρ) {called : Bool}
    (hsteps : report.steps.map fst =
      d.earlier ++ (if called then [] else [d])) :
    (if called then report.add d (outcomeReport outcome) else report).steps.map fst =
      d.earlier ++ [d] := by
  cases called with
  | true => simpa [Report.add] using hsteps
  | false => simpa using hsteps

theorem fit_resume (host : Host) (outcome : Except Thrown ρ) {called : Bool}
    (h : (awaiting d called report).Fit) :
    (resume host outcome d called report).Fit := by
  obtain ⟨hlive, hsteps, hcalled⟩ := h
  by_cases hd : d = .ensureLive
  · subst hd
    rw [hcalled rfl] at hsteps
    have hnone : report.steps = [] := by simpa [Directive.earlier] using hsteps
    cases outcome with
    | ok result =>
      refine fit_enter host (by decide) rfl ?_
      rw [Report.goLive, Report.add, hnone]
      rfl
    | error err =>
      refine .inl ⟨hlive, ?_⟩
      rw [Report.add, hnone]
      rfl
  · have hsteps' := steps_outcome outcome hsteps
    have hlive' : (if called then report.add d (outcomeReport outcome) else report).live = true := by
      cases called <;> simp [Report.add, hlive, hd]
    -- each later directive is entered once the one before it is reported on
    cases d with
    | ensureLive => exact absurd rfl hd
    | renewLeaseIfDue => exact fit_enter host (by decide) hlive' hsteps'
    | drain => exact fit_enter host (by decide) hlive' hsteps'
    | commitSweep => exact fit_enter host (by decide) hlive' hsteps'
    | siblingSync => exact .inr ⟨hlive', hsteps'⟩

@[simp] theorem left_enter (host : Host) (d : Directive) (report : Report ρ) :
    (enter host d report).left = d.left := by
  rw [enter]
  by_cases hhas : host.has d.target = true
  · rw [if_pos hhas, left]
  · rw [if_neg hhas, left]

theorem left_begin_le (host : Host) (reasons : List String) :
    (begin host reasons : Pass ρ).left ≤ 5 := by
  rw [begin]
  by_cases hhas : host.has Directive.ensureLive.target = true
  · rw [if_pos hhas, left]
    exact Nat.le_refl 5
  · rw [if_neg hhas, left_enter]
    decide

/-- Whatever comes of a directive, the pass comes nearer to its end. -/
theorem left_resume_lt (host : Host) (outcome : Except Thrown ρ) (d : Directive) (called : Bool)
    (report : Report ρ) : (resume host outcome d called report).left < d.left := by
  cases d with
  | ensureLive =>
    cases outcome with
    | ok result => simp [resume, Directive.left]
    | error err => simp [resume, left, Directive.left]
  | renewLeaseIfDue => simp [resume, Directive.next, Directive.left]
  | drain => simp [resume, Directive.next, Directive.left]
  | commitSweep => simp [resume, Directive.next, Directive.left]
  | siblingSync => simp [resume, Directive.next, left, Directive.left]

/-- The pass awaits something. -/
def Awaits : Pass ρ → Prop
  | .awaiting _ _ _ => True
  | .returned _ => False

theorem awaits_enter (host : Host) (d : Directive) (report : Report ρ) :
    (enter host d report).Awaits := by
  rw [enter]
  by_cases hhas : host.has d.target = true
  · rw [if_pos hhas]
    trivial
  · rw [if_neg hhas]
    trivial

/-- A pass never ends in the step that begins it. -/
theorem awaits_begin (host : Host) (reasons : List String) :
    (begin host reasons : Pass ρ).Awaits := by
  rw [begin]
  by_cases hhas : host.has Directive.ensureLive.target = true
  · rw [if_pos hhas]
    trivial
  · rw [if_neg hhas]
    exact awaits_enter host _ _

end Pass

/-! ## The loop -/

/-- How far a loop is: in a pass, whose report it may be about to read; past its last pass, with
`finally` still to come; or over. -/
inductive Phase (ρ : Type) where
  | inPass (p : Pass ρ)
  | stopped (report : Report ρ)
  | settled (report : Report ρ)

/-- A loop of `#requestConverge`; `heard` is the number of hooks that were called before its pass
started. -/
structure Loop (ρ : Type) where
  phase : Phase ρ
  heard : Nat

def Phase.isStopped : Phase ρ → Bool
  | .stopped _ => true
  | _ => false

def Phase.isSettled : Phase ρ → Bool
  | .settled _ => true
  | _ => false

/-- A pass that has ended. -/
structure Finished (ρ : Type) where
  heard : Nat
  report : Report ρ

/-- The adapter, its loops, and the record of what happened. -/
structure Adapter (ρ : Type) where
  running : Bool
  rerun : Bool
  pendingReasons : List String
  /-- The loop whose promise `#currentPassPromise` is. -/
  currentPassPromise : Option Nat
  lastReport : Option (Report ρ)
  loops : List (Loop ρ)
  hooks : Nat
  passes : List (Finished ρ)
  turns : Nat

namespace Adapter

/-- `constructor`. -/
def start : Adapter ρ := ⟨false, false, [], none, none, [], 0, [], 0⟩

/-- The head of the loop: the dirty bit is cleared, and the reasons are taken. -/
def spliced (s : Adapter ρ) : Adapter ρ := { s with rerun := false, pendingReasons := [] }

/-- The pass that the head of the loop starts. -/
def newPass (s : Adapter ρ) (host : Host) : Loop ρ :=
  ⟨.inPass (.begin host s.pendingReasons), s.hooks⟩

/-- `#requestConverge`; it returns the promise of a loop. -/
def requestConverge (s : Adapter ρ) (host : Host) (reason : String) :
    Adapter ρ × Option Nat :=
  let s := { s with pendingReasons := s.pendingReasons ++ [reason], hooks := s.hooks + 1 }
  if s.running then ({ s with rerun := true }, s.currentPassPromise)
  else
    let s' := { s.spliced with
      running := true
      currentPassPromise := some s.loops.length
      loops := s.loops ++ [s.newPass host] }
    (s', s'.currentPassPromise)

/-- The pass that the loop `k` makes goes on. -/
def passResumes (s : Adapter ρ) (k heard : Nat) (p : Pass ρ) : Adapter ρ :=
  let ended := match p with
    | .returned report => [⟨heard, report⟩]
    | .awaiting _ _ _ => []
  { s with
    loops := s.loops.set k ⟨.inPass p, heard⟩
    passes := s.passes ++ ended
    turns := s.turns + 1 }

/-- The loop `k` has the report of its pass: it makes another pass, or stops. -/
def passReturned (s : Adapter ρ) (k heard : Nat) (host : Host) (report : Report ρ) : Adapter ρ :=
  let s := { s with lastReport := some report, turns := s.turns + 1 }
  if s.rerun then { s.spliced with loops := s.loops.set k (s.newPass host) }
  else { s with loops := s.loops.set k ⟨.stopped report, heard⟩ }

/-- `finally`. -/
def settle (s : Adapter ρ) (k heard : Nat) (report : Report ρ) : Adapter ρ :=
  { s with
    running := false
    currentPassPromise := none
    loops := s.loops.set k ⟨.settled report, heard⟩
    turns := s.turns + 1 }

/-- The loop `k` has its turn: what it awaits has come to `outcome`. -/
def turn (s : Adapter ρ) (k : Nat) (host : Host) (outcome : Except Thrown ρ) : Adapter ρ :=
  match s.loops[k]? with
  | none => s
  | some ⟨.inPass (.awaiting d called report), heard⟩ =>
    s.passResumes k heard (.resume host outcome d called report)
  | some ⟨.inPass (.returned report), heard⟩ => s.passReturned k heard host report
  | some ⟨.stopped report, heard⟩ => s.settle k heard report
  | some ⟨.settled _, _⟩ => s

end Adapter

/-! ## Runs -/

/-- The host hooks. -/
inductive Hook where
  | onForeground
  | onPushWake
  | onNetworkAvailable
  | onPeriodicWake

def Hook.reason : Hook → String
  | onForeground => "foreground"
  | onPushWake => "push-wake"
  | onNetworkAvailable => "network-available"
  | onPeriodicWake => "periodic-wake"

/-- What happens: the host calls a hook, or a loop has its turn. -/
inductive Event (ρ : Type) where
  | hook (h : Hook) (host : Host)
  | turn (k : Nat) (host : Host) (outcome : Except Thrown ρ)

namespace Adapter

def step (s : Adapter ρ) : Event ρ → Adapter ρ
  | .hook h host => (s.requestConverge host h.reason).1
  | .turn k host outcome => s.turn k host outcome

/-- The adapter after the events `es`. -/
def after (es : List (Event ρ)) : Adapter ρ := run step start es

/-- The loop makes a pass that is not over. -/
def Passing (l : Loop ρ) : Prop := ∃ d called report, l.phase = .inPass (.awaiting d called report)

/-- No two passes overlap. -/
def OnePass (s : Adapter ρ) : Prop :=
  ∀ (j k : Nat) (l m : Loop ρ), s.loops[j]? = some l → s.loops[k]? = some m →
    Passing l → Passing m → j = k

/-- A whole pass that started after the hook `n` has ended. -/
def Served (s : Adapter ρ) (n : Nat) : Prop :=
  ∃ p ∈ s.passes, n < p.heard ∧ p.report.Complete

/-- A loop has decided to stop, and `finally` has not run. -/
def stopping (s : Adapter ρ) : Bool := s.loops.any fun l => l.phase.isStopped

/-- No hook is called while the loop is between its decision to stop and `finally`. -/
def Timely (s : Adapter ρ) : Event ρ → Prop
  | .hook _ _ => s.stopping = false
  | .turn _ _ _ => True

instance (s : Adapter ρ) : ∀ e, Decidable (s.Timely e)
  | .hook _ _ => inferInstanceAs (Decidable (s.stopping = false))
  | .turn _ _ _ => isTrue trivial

end Adapter

/-! ## One loop at a time -/

namespace Adapter

variable {s : Adapter ρ} {k : Nat} {l m : Loop ρ} {host : Host}

/-- Every loop but `k` is over. -/
def OthersSettled (loops : List (Loop ρ)) (k : Nat) : Prop :=
  ∀ (j : Nat) (m : Loop ρ), loops[j]? = some m → j ≠ k → m.phase.isSettled = true

/-- The running loop is the one whose promise is kept, and any other is over; and what the reports
say is right as far as the passes have come. -/
structure Sound (s : Adapter ρ) : Prop where
  idle : s.running = false → ∀ (j : Nat) (m : Loop ρ), s.loops[j]? = some m →
    m.phase.isSettled = true
  busy : s.running = true → ∃ k l, s.currentPassPromise = some k ∧ s.loops[k]? = some l ∧
    l.phase.isSettled = false ∧ OthersSettled s.loops k
  fit : ∀ (k : Nat) (p : Pass ρ) (heard : Nat), s.loops[k]? = some ⟨.inPass p, heard⟩ → p.Fit
  complete : ∀ p ∈ s.passes, p.report.Complete

/-- A loop that is not over is the one that runs. -/
theorem Sound.owner (h : Sound s) (hl : s.loops[k]? = some l)
    (hlive : l.phase.isSettled = false) :
    s.running = true ∧ s.currentPassPromise = some k ∧ OthersSettled s.loops k := by
  by_cases hrunning : s.running = true
  · obtain ⟨k', l', hpromise, _, _, hothers⟩ := h.busy hrunning
    by_cases hk : k = k'
    · exact ⟨hrunning, hk ▸ hpromise, hk ▸ hothers⟩
    · have hover := hothers k l hl hk
      rw [hlive] at hover
      exact absurd hover false_ne_true
  · have hover := h.idle (not_eq_true _ |>.mp hrunning) k l hl
    rw [hlive] at hover
    exact absurd hover false_ne_true

/-- There is only one of them. -/
theorem Sound.same (h : Sound s) {j : Nat} (hj : s.loops[j]? = some l) (hk : s.loops[k]? = some m)
    (hl : l.phase.isSettled = false) (hm : m.phase.isSettled = false) : j = k ∧ l = m := by
  have hjk : j = k := Option.some_inj.1 ((h.owner hj hl).2.1.symm.trans (h.owner hk hm).2.1)
  subst hjk
  exact ⟨rfl, Option.some_inj.1 (hj.symm.trans hk)⟩

theorem Sound.onePass (h : Sound s) : s.OnePass := by
  rintro j k l m hj hk ⟨d, called, report, hl⟩ ⟨d', called', report', hm⟩
  exact (h.same hj hk (by rw [hl]; rfl) (by rw [hm]; rfl)).1

theorem othersSettled_set (h : OthersSettled s.loops k) : OthersSettled (s.loops.set k l) k := by
  intro j m hj hne
  rcases getElem_set hj with ⟨hjk, _⟩ | ⟨_, hget⟩
  · exact absurd hjk hne
  · exact h j m hget hne

variable {s' : Adapter ρ}

/-- The running loop moves on without being over. -/
theorem Sound.moved (h : Sound s) (hl : s.loops[k]? = some l)
    (hlive : l.phase.isSettled = false) (hloops : s'.loops = s.loops.set k m)
    (hrunning : s'.running = s.running) (hpromise : s'.currentPassPromise = s.currentPassPromise)
    (hm : m.phase.isSettled = false) (hfit : ∀ p, m.phase = .inPass p → p.Fit)
    (hpasses : ∀ p ∈ s'.passes, p.report.Complete) : Sound s' := by
  obtain ⟨hrun, hcurrent, hothers⟩ := h.owner hl hlive
  refine ⟨fun hidle => ?_, fun _ => ?_, fun j p heard hj => ?_, hpasses⟩
  · rw [hrunning, hrun] at hidle
    exact absurd hidle.symm false_ne_true
  · refine ⟨k, m, hpromise.trans hcurrent, ?_, hm, ?_⟩
    · rw [hloops, set_self hl]
    · rw [hloops]
      exact othersSettled_set hothers
  · rw [hloops] at hj
    rcases getElem_set hj with ⟨_, hmeq⟩ | ⟨_, hget⟩
    · exact hfit p (hmeq ▸ rfl)
    · exact h.fit j p heard hget

theorem sound_start : Sound (start : Adapter ρ) where
  idle _ _ _ h := nomatch h
  busy h := absurd h false_ne_true
  fit _ _ _ h := nomatch h
  complete _ h := nomatch h

theorem Sound.requestConverge (h : Sound s) (host : Host) (reason : String) :
    Sound (s.requestConverge host reason).1 := by
  rw [Adapter.requestConverge]
  by_cases hrunning : s.running = true
  · rw [if_pos hrunning]
    exact ⟨h.idle, h.busy, h.fit, h.complete⟩
  · rw [if_neg hrunning]
    have hover := h.idle (not_eq_true _ |>.mp hrunning)
    refine ⟨fun hidle => ?_, fun _ => ?_, fun j p heard hj => ?_, h.complete⟩
    · exact absurd hidle.symm false_ne_true
    · refine ⟨s.loops.length, _, rfl, getElem?_concat_length, rfl, fun j m hj hne => ?_⟩
      rcases getElem_append hj with ⟨hjk, _⟩ | ⟨_, hget⟩
      · exact absurd hjk hne
      · exact hover j m hget
    · rcases getElem_append hj with ⟨_, hmeq⟩ | ⟨_, hget⟩
      · injection hmeq with hphase
        injection hphase with hp
        rw [hp]
        exact Pass.fit_begin host _
      · exact h.fit j p heard hget

theorem mem_passResumes {heard : Nat} {p : Pass ρ} {q : Finished ρ}
    (h : q ∈ (s.passResumes k heard p).passes) :
    q ∈ s.passes ∨ p = .returned q.report ∧ q.heard = heard := by
  rcases List.mem_append.1 h with hold | hnew
  · exact .inl hold
  · cases p with
    | awaiting d called report => exact absurd hnew not_mem_nil
    | returned report =>
      rw [mem_singleton.1 hnew]
      exact .inr ⟨rfl, rfl⟩

/-- What a turn does, by how far the loop is. -/
theorem turn_cases (s : Adapter ρ) (k : Nat) (host : Host) (outcome : Except Thrown ρ) :
    s.turn k host outcome = s ∨
      (∃ d called report heard, s.loops[k]? = some ⟨.inPass (.awaiting d called report), heard⟩ ∧
        s.turn k host outcome = s.passResumes k heard (.resume host outcome d called report)) ∨
      (∃ report heard, s.loops[k]? = some ⟨.inPass (.returned report), heard⟩ ∧
        s.turn k host outcome = s.passReturned k heard host report) ∨
      ∃ report heard, s.loops[k]? = some ⟨.stopped report, heard⟩ ∧
        s.turn k host outcome = s.settle k heard report := by
  rw [turn]
  cases hl : s.loops[k]? with
  | none => exact .inl rfl
  | some l =>
    obtain ⟨phase, heard⟩ := l
    cases phase with
    | inPass p =>
      cases p with
      | awaiting d called report => exact .inr (.inl ⟨d, called, report, heard, rfl, rfl⟩)
      | returned report => exact .inr (.inr (.inl ⟨report, heard, rfl, rfl⟩))
    | stopped report => exact .inr (.inr (.inr ⟨report, heard, rfl, rfl⟩))
    | settled report => exact .inl rfl

theorem Sound.turn (h : Sound s) (k : Nat) (host : Host) (outcome : Except Thrown ρ) :
    Sound (s.turn k host outcome) := by
  rcases turn_cases s k host outcome with hs | ⟨d, called, report, heard, hl, hs⟩ |
    ⟨report, heard, hl, hs⟩ | ⟨report, heard, hl, hs⟩
  · rw [hs]
    exact h
  · rw [hs]
    have hfit := Pass.fit_resume host outcome (h.fit k _ heard hl)
    refine h.moved hl rfl rfl rfl rfl rfl (fun p hp => ?_) fun q hq => ?_
    · injection hp with hp
      exact hp ▸ hfit
    · rcases mem_passResumes hq with hold | ⟨hreturned, _⟩
      · exact h.complete q hold
      · rw [hreturned] at hfit
        exact hfit
  · rw [hs, passReturned]
    by_cases hrerun : s.rerun = true
    · rw [if_pos hrerun]
      refine h.moved hl rfl rfl rfl rfl rfl (fun p hp => ?_) h.complete
      injection hp with hp
      exact hp ▸ Pass.fit_begin host _
    · rw [if_neg hrerun]
      exact h.moved hl rfl rfl rfl rfl rfl (fun p hp => nomatch hp) h.complete
  · rw [hs]
    obtain ⟨_, _, hothers⟩ := h.owner hl rfl
    refine ⟨fun _ j m hj => ?_, fun hbusy => absurd hbusy false_ne_true,
      fun j p heard' hj => ?_, h.complete⟩
    · rcases getElem_set hj with ⟨_, hmeq⟩ | ⟨hne, hget⟩
      · rw [hmeq]
        rfl
      · exact hothers j m hget hne
    · rcases getElem_set hj with ⟨_, hmeq⟩ | ⟨_, hget⟩
      · injection hmeq with hphase
        cases hphase
      · exact h.fit j p heard' hget

theorem Sound.step (h : Sound s) (e : Event ρ) : Sound (s.step e) := by
  cases e with
  | hook hk host => exact h.requestConverge host hk.reason
  | turn k host outcome => exact h.turn k host outcome

theorem run_sound (es : List (Event ρ)) : Sound (after es) :=
  invariant_all step (fun _ e h => h.step e) es start sound_start

/-! ## No wake is lost -/

/-- What the running loop owes to the hooks: a hook that its pass did not hear has set the dirty
bit, and where it has stopped, there is none. -/
def Owes (s : Adapter ρ) (l : Loop ρ) : Prop :=
  match l.phase with
  | .inPass p => (l.heard < s.hooks → s.rerun = true) ∧
      ∀ report, p = .returned report → ∃ q ∈ s.passes, q.heard = l.heard
  | .stopped _ => ∃ q ∈ s.passes, q.heard = s.hooks
  | .settled _ => True

/-- No hook was absorbed. -/
structure Heeded (s : Adapter ρ) : Prop where
  sound : Sound s
  owes : ∀ (k : Nat) (l : Loop ρ), s.loops[k]? = some l → l.heard ≤ s.hooks ∧ Owes s l
  idle : s.running = false → s.hooks = 0 ∨ ∃ q ∈ s.passes, q.heard = s.hooks

theorem heeded_start : Heeded (start : Adapter ρ) where
  sound := sound_start
  owes _ _ h := nomatch h
  idle _ := .inl rfl

/-- A loop that is over owes nothing. -/
theorem owes_of_settled (hl : l.phase.isSettled = true) : Owes s l := by
  obtain ⟨phase, heard⟩ := l
  cases phase with
  | inPass p => exact absurd hl false_ne_true
  | stopped report => exact absurd hl false_ne_true
  | settled report => trivial

theorem notStopped_of_get (h : s.stopping = false) (hl : s.loops[k]? = some l) :
    l.phase.isStopped = false := by
  rw [stopping, List.any_eq_false] at h
  exact not_eq_true _ |>.mp (h l (mem_of_getElem? hl))

/-- A pass that has just begun has heard every hook. -/
theorem owes_begun {reasons : List String} {heard : Nat} (h : heard = s'.hooks) :
    Owes s' ⟨.inPass (.begin host reasons), heard⟩ := by
  refine ⟨fun hlt => ?_, fun report hreturned => ?_⟩
  · have hlt' : heard < s'.hooks := hlt
    omega
  · have hawaits := Pass.awaits_begin (ρ := ρ) host reasons
    rw [hreturned] at hawaits
    exact hawaits.elim

theorem Heeded.requestConverge (h : Heeded s) (htimely : s.stopping = false) (host : Host)
    (reason : String) :
    Heeded (s.requestConverge host reason).1 := by
  have hsound := h.sound.requestConverge host reason
  rw [Adapter.requestConverge] at hsound ⊢
  by_cases hrunning : s.running = true
  · rw [if_pos hrunning] at hsound ⊢
    refine ⟨hsound, fun k l hl => ?_, fun hidle => ?_⟩
    · obtain ⟨hle, howes⟩ := h.owes k l hl
      refine ⟨Nat.le_succ_of_le hle, ?_⟩
      have hstopped := notStopped_of_get htimely hl
      obtain ⟨phase, heard⟩ := l
      cases phase with
      | inPass p => exact ⟨fun _ => rfl, howes.2⟩
      | stopped report => exact absurd hstopped.symm false_ne_true
      | settled report => trivial
    · exact absurd (hrunning.symm.trans hidle).symm false_ne_true
  · rw [if_neg hrunning] at hsound ⊢
    have hover := h.sound.idle (not_eq_true _ |>.mp hrunning)
    refine ⟨hsound, fun k l hl => ?_, fun hidle => absurd hidle.symm false_ne_true⟩
    rcases getElem_append hl with ⟨_, hmeq⟩ | ⟨_, hget⟩
    · rw [hmeq]
      exact ⟨Nat.le_refl _, owes_begun rfl⟩
    · exact ⟨Nat.le_succ_of_le (h.owes k l hget).1, owes_of_settled (hover k l hget)⟩

/-- The running loop moves on; the others stay over. -/
theorem Heeded.moved (h : Heeded s) (hsound : Sound s')
    (hl : s.loops[k]? = some l) (hlive : l.phase.isSettled = false)
    (hloops : s'.loops = s.loops.set k m) (hhooks : s'.hooks = s.hooks)
    (howes : m.heard ≤ s.hooks ∧ Owes s' m)
    (hidle : s'.running = false → ∃ q ∈ s'.passes, q.heard = s'.hooks) : Heeded s' := by
  obtain ⟨_, _, hothers⟩ := h.sound.owner hl hlive
  refine ⟨hsound, fun j l' hj => ?_, fun hrunning => .inr (hidle hrunning)⟩
  rw [hloops] at hj
  rw [hhooks]
  rcases getElem_set hj with ⟨_, hmeq⟩ | ⟨hne, hget⟩
  · exact hmeq ▸ howes
  · exact ⟨(h.owes j l' hget).1, owes_of_settled (hothers j l' hget hne)⟩

theorem Heeded.turn (h : Heeded s) (k : Nat) (host : Host) (outcome : Except Thrown ρ) :
    Heeded (s.turn k host outcome) := by
  have hsound := h.sound.turn k host outcome
  rcases turn_cases s k host outcome with hs | ⟨d, called, report, heard, hl, hs⟩ |
    ⟨report, heard, hl, hs⟩ | ⟨report, heard, hl, hs⟩
  · rw [hs]
    exact h
  · rw [hs] at hsound ⊢
    obtain ⟨hle, hdirty, _⟩ := h.owes k _ hl
    have hrunning := (h.sound.owner hl rfl).1
    refine h.moved hsound hl rfl rfl rfl ⟨hle, hdirty, fun report' hreturned => ?_⟩ fun hidle => ?_
    · rw [hreturned]
      exact ⟨⟨heard, report'⟩, mem_append_right _ (mem_singleton.2 rfl), rfl⟩
    · exact absurd (hrunning.symm.trans hidle).symm false_ne_true
  · rw [hs] at hsound ⊢
    obtain ⟨hle, hdirty, hended⟩ := h.owes k _ hl
    have hrunning := (h.sound.owner hl rfl).1
    rw [passReturned] at hsound ⊢
    by_cases hrerun : s.rerun = true
    · rw [if_pos hrerun] at hsound ⊢
      refine h.moved hsound hl rfl rfl rfl ⟨Nat.le_refl _, owes_begun rfl⟩ fun hidle => ?_
      exact absurd (hrunning.symm.trans hidle).symm false_ne_true
    · rw [if_neg hrerun] at hsound ⊢
      -- the bit is clear, so the pass that ended heard every hook
      have hall : heard = s.hooks := Nat.le_antisymm hle (Nat.le_of_not_lt fun hlt =>
        hrerun (hdirty hlt))
      obtain ⟨q, hq, hqheard⟩ := hended report rfl
      refine h.moved hsound hl rfl rfl rfl ⟨hle, q, hq, hqheard.trans hall⟩ fun hidle => ?_
      exact absurd (hrunning.symm.trans hidle).symm false_ne_true
  · rw [hs] at hsound ⊢
    obtain ⟨hle, hended⟩ := h.owes k _ hl
    exact h.moved hsound hl rfl rfl rfl ⟨hle, trivial⟩ fun _ => hended

theorem Heeded.step (h : Heeded s) {e : Event ρ} (he : s.Timely e) : Heeded (s.step e) := by
  cases e with
  | hook hk host => exact h.requestConverge he host hk.reason
  | turn k host outcome => exact h.turn k host outcome

theorem run_heeded (es : List (Event ρ)) (h : Runs.Meets step Timely start es) :
    Heeded (after es) :=
  invariant step (fun _ _ hs he => hs.step he) es start heeded_start h

/-- When the adapter is idle, every hook has been served. -/
theorem Heeded.served (h : Heeded s) (hidle : s.running = false) {n : Nat} (hn : n < s.hooks) :
    s.Served n := by
  rcases h.idle hidle with hnone | ⟨q, hq, hheard⟩
  · omega
  · exact ⟨q, hq, by omega, h.sound.complete q hq⟩

/-! ## And none waits for ever -/

/-- How many turns of its loop a hook waits at most: the rest of the pass under way, where that
did not hear it the turn that finds the dirty bit, and then a whole pass. -/
def patience (n : Nat) (l : Loop ρ) : Nat :=
  match l.phase with
  | .inPass p => if n < l.heard then p.left else p.left + 6
  | _ => 0

/-- The hook `n` has been served, or is going to be before the turn `limit`. -/
def Due (n limit : Nat) (s : Adapter ρ) : Prop :=
  Heeded s ∧ n < s.hooks ∧ (s.Served n ∨ ∃ (k : Nat) (p : Pass ρ) (heard : Nat),
    s.loops[k]? = some ⟨.inPass p, heard⟩ ∧ s.turns + patience n ⟨.inPass p, heard⟩ ≤ limit)

theorem Served.mono {n : Nat} (h : s.Served n)
    (hpasses : ∀ q ∈ s.passes, q ∈ s'.passes) : s'.Served n := by
  obtain ⟨q, hq, hn⟩ := h
  exact ⟨q, hpasses q hq, hn⟩

theorem passes_step (s : Adapter ρ) (e : Event ρ) : ∀ q ∈ s.passes, q ∈ (s.step e).passes := by
  intro q hq
  cases e with
  | hook hk host =>
    rw [step, requestConverge]
    by_cases hrunning : s.running = true
    · rw [if_pos hrunning]
      exact hq
    · rw [if_neg hrunning]
      exact hq
  | turn k host outcome =>
    show q ∈ (s.turn k host outcome).passes
    rcases turn_cases s k host outcome with hs | ⟨d, called, report, heard, hl, hs⟩ |
      ⟨report, heard, hl, hs⟩ | ⟨report, heard, hl, hs⟩
    · rw [hs]
      exact hq
    · rw [hs]
      exact mem_append_left _ hq
    · rw [hs, passReturned]
      by_cases hrerun : s.rerun = true
      · rw [if_pos hrerun]
        exact hq
      · rw [if_neg hrerun]
        exact hq
    · rw [hs]
      exact hq

variable {n heard : Nat}

theorem patience_heard (hn : n < heard) (p : Pass ρ) :
    patience n ⟨.inPass p, heard⟩ = p.left := by simp only [patience, if_pos hn]

theorem patience_missed (hn : ¬ n < heard) (p : Pass ρ) :
    patience n ⟨.inPass p, heard⟩ = p.left + 6 := by simp only [patience, if_neg hn]

theorem patience_inPass_le (p : Pass ρ) :
    patience n ⟨.inPass p, heard⟩ ≤ p.left + 6 := by
  by_cases hn : n < heard
  · rw [patience_heard hn]
    omega
  · exact Nat.le_of_eq (patience_missed hn p)

theorem patience_begin_le (hn : n < heard) (host : Host) (reasons : List String) :
    patience n (⟨.inPass (.begin host reasons), heard⟩ : Loop ρ) ≤ 5 := by
  rw [patience_heard hn]
  exact Pass.left_begin_le host reasons

variable {n limit : Nat}

/-- A turn that a hook waits for brings it nearer to its pass. -/
theorem Due.turn (h : Due n limit s) (k : Nat) (host : Host)
    (outcome : Except Thrown ρ) : Due n limit (s.turn k host outcome) := by
  obtain ⟨hheeded, hn, hdue⟩ := h
  have hheeded' := hheeded.turn k host outcome
  have hhooks : (s.turn k host outcome).hooks = s.hooks := by
    rcases turn_cases s k host outcome with hs | ⟨d, called, report, heard, hl, hs⟩ |
      ⟨report, heard, hl, hs⟩ | ⟨report, heard, hl, hs⟩
    · rw [hs]
    · rw [hs]
      rfl
    · rw [hs, passReturned]
      by_cases hrerun : s.rerun = true
      · rw [if_pos hrerun]
        rfl
      · rw [if_neg hrerun]
    · rw [hs]
      rfl
  refine ⟨hheeded', hhooks ▸ hn, ?_⟩
  rcases hdue with hserved | ⟨j, p, heard, hj, hlimit⟩
  · exact .inl (hserved.mono (passes_step s (.turn k host outcome)))
  rcases turn_cases s k host outcome with hs | ⟨d, called, report, heard', hl, hs⟩ |
    ⟨report, heard', hl, hs⟩ | ⟨report, heard', hl, hs⟩
  · rw [hs]
    exact .inr ⟨j, p, heard, hj, hlimit⟩
  · -- the loop that has the turn is the one that runs
    obtain ⟨rfl, heq⟩ := hheeded.sound.same hj hl rfl rfl
    injection heq with hphase hheard
    injection hphase with hp
    subst hp hheard
    have hlt := Pass.left_resume_lt host outcome d called report
    rw [hs]
    refine .inr ⟨j, _, heard, set_self hl, ?_⟩
    have hturns : (s.passResumes j heard (.resume host outcome d called report)).turns =
        s.turns + 1 := rfl
    have hleft : (Pass.awaiting d called report).left = d.left := rfl
    rw [hturns]
    by_cases hheard : n < heard
    · rw [patience_heard hheard] at hlimit ⊢
      omega
    · rw [patience_missed hheard] at hlimit ⊢
      omega
  · obtain ⟨rfl, heq⟩ := hheeded.sound.same hj hl rfl rfl
    injection heq with hphase hheard
    injection hphase with hp
    subst hp hheard
    obtain ⟨_, hdirty, hended⟩ := hheeded.owes j _ hl
    by_cases hheard : n < heard
    · -- the pass that returned is the one the hook waited for
      obtain ⟨q, hq, hqheard⟩ := hended report rfl
      refine .inl (Served.mono ⟨q, hq, hqheard ▸ hheard, hheeded.sound.complete q hq⟩ ?_)
      exact passes_step s (.turn j host outcome)
    · have hrerun : s.rerun = true := hdirty (Nat.lt_of_le_of_lt (Nat.le_of_not_lt hheard) hn)
      have hturns : (s.turn j host outcome).turns = s.turns + 1 := by
        rw [hs, passReturned, if_pos hrerun]
        rfl
      rw [hturns]
      rw [hs, passReturned, if_pos hrerun]
      refine .inr ⟨j, _, s.hooks, set_self hl, ?_⟩
      have hpatience := patience_begin_le (ρ := ρ) hn host s.pendingReasons
      rw [patience_missed hheard] at hlimit
      exact Nat.le_trans (Nat.add_le_add_left hpatience _) (by omega)
  · obtain ⟨rfl, heq⟩ := hheeded.sound.same hj hl rfl rfl
    injection heq with hphase
    cases hphase

/-- A later hook does not make an earlier one wait longer. -/
theorem Due.requestConverge (h : Due n limit s) (htimely : s.stopping = false)
    (host : Host) (reason : String) : Due n limit (s.requestConverge host reason).1 := by
  obtain ⟨hheeded, hn, hdue⟩ := h
  have hheeded' := hheeded.requestConverge htimely host reason
  rw [Adapter.requestConverge] at hheeded' ⊢
  by_cases hrunning : s.running = true
  · rw [if_pos hrunning] at hheeded' ⊢
    refine ⟨hheeded', Nat.lt_succ_of_lt hn, ?_⟩
    rcases hdue with hserved | hwaits
    · exact .inl hserved
    · exact .inr hwaits
  · rw [if_neg hrunning] at hheeded' ⊢
    refine ⟨hheeded', Nat.lt_succ_of_lt hn, .inl ?_⟩
    exact hheeded.served (not_eq_true _ |>.mp hrunning) hn

theorem Due.step (h : Due n limit s) {e : Event ρ} (he : s.Timely e) :
    Due n limit (s.step e) := by
  cases e with
  | hook hk host => exact h.requestConverge he host hk.reason
  | turn k host outcome => exact h.turn k host outcome

/-- A hook that was just called is due within eleven turns. -/
theorem due_hook (h : Heeded s) (hk : Hook) (host : Host) (htimely : s.stopping = false) :
    Due s.hooks ((s.step (.hook hk host)).turns + 11) (s.step (.hook hk host)) := by
  have hheeded : Heeded (s.step (.hook hk host)) := h.requestConverge htimely host hk.reason
  rw [step] at hheeded ⊢
  rw [Adapter.requestConverge] at hheeded ⊢
  by_cases hrunning : s.running = true
  · rw [if_pos hrunning] at hheeded ⊢
    obtain ⟨k, l, _, hl, hlive, _⟩ := h.sound.busy hrunning
    refine ⟨hheeded, Nat.lt_succ_self _, .inr ?_⟩
    have hstopped := notStopped_of_get htimely hl
    obtain ⟨phase, heard⟩ := l
    cases phase with
    | inPass p =>
      refine ⟨k, p, heard, hl, Nat.add_le_add_left (Nat.le_trans (patience_inPass_le p) ?_) _⟩
      cases p with
      | awaiting d called report => cases d <;> simp [Pass.left, Directive.left]
      | returned report => simp [Pass.left]
    | stopped report => exact absurd hstopped.symm false_ne_true
    | settled report => exact absurd hlive.symm false_ne_true
  · rw [if_neg hrunning] at hheeded ⊢
    refine ⟨hheeded, Nat.lt_succ_self _, .inr ⟨s.loops.length, _, s.hooks + 1,
      getElem?_concat_length, Nat.add_le_add_left (Nat.le_trans ?_ (by decide : 5 ≤ 11)) _⟩⟩
    exact patience_begin_le (Nat.lt_succ_self _) host _

/-- Once its turns are used up, a hook has been served. -/
theorem Due.served (h : Due n limit s) (hlimit : limit ≤ s.turns) :
    s.Served n := by
  obtain ⟨hheeded, _, hserved | ⟨k, p, heard, hk, hle⟩⟩ := h
  · exact hserved
  obtain ⟨_, hdirty, hended⟩ := hheeded.owes k _ hk
  have hzero : patience n ⟨.inPass p, heard⟩ = 0 := by omega
  by_cases hheard : n < heard
  · cases p with
    | awaiting d called report =>
      rw [patience_heard hheard] at hzero
      cases d <;> cases hzero
    | returned report =>
      obtain ⟨q, hq, hqheard⟩ := hended report rfl
      exact ⟨q, hq, hqheard ▸ hheard, hheeded.sound.complete q hq⟩
  · rw [patience_missed hheard] at hzero
    omega

/-- **No wake is lost.** Passes never overlap; and where no hook is called between the moment the
loop decides to stop and `finally`, every hook is followed by a whole pass that started after it:
it has been served whenever the adapter is idle, and once the loop had eleven turns. -/
theorem run_losesNoWake (es : List (Event ρ)) (h : Runs.Meets step Timely start es) :
    (∀ i, (after (es.take i)).OnePass) ∧
      (∀ i, (after (es.take i)).running = false →
        ∀ n < (after (es.take i)).hooks, (after (es.take i)).Served n) ∧
      ∀ before hook host later, es = before ++ .hook hook host :: later →
        (after (before ++ [.hook hook host])).turns + 11 ≤ (after es).turns →
          (after es).Served (after before).hooks := by
  refine ⟨fun i => (run_sound _).onePass, fun i hidle n hn => ?_, ?_⟩
  · have hpart : Runs.Meets step Timely start (es.take i) := by
      refine Runs.Meets.of_append step _ (es.drop i) ?_
      rwa [take_append_drop]
    exact (run_heeded _ hpart).served hidle hn
  · rintro before hook host later rfl hturns
    have hbefore := run_heeded before (Runs.Meets.of_append step before _ h)
    have htimely : (after before).stopping = false := Runs.Meets.step_of_append step before h
    have hdue := due_hook hbefore hook host htimely
    have hstep : after (before ++ [.hook hook host]) = (after before).step (.hook hook host) := by
      rw [after, run_append]
      rfl
    have hlater : Runs.Meets step Timely ((after before).step (.hook hook host)) later :=
      (Runs.Meets.of_append_right step before h).2
    rw [hstep] at hturns
    have hend : after (before ++ .hook hook host :: later) =
        run step ((after before).step (.hook hook host)) later := by
      rw [after, run_append]
      rfl
    rw [hend] at hturns ⊢
    have hend := invariant step (fun _ _ hs he => hs.step he) later _ hdue hlater
    exact hend.served hturns

/-- **One pass at a time, and whole reports**, in every run, wherever the hooks fall: what a pass
reports speaks of each directive in the frozen order, or of the first only, which found the runtime
not live. -/
theorem run_reports (es : List (Event ρ)) :
    (after es).OnePass ∧ ∀ p ∈ (after es).passes, p.report.Complete :=
  ⟨(run_sound es).onePass, (run_sound es).complete⟩

/-- A wake during a pass is served by the pass that follows it. -/
theorem run_losesNoWake_midPass :
    let host : Host := ⟨fun _ => true, 0⟩
    let offline : Event Unit := .turn 0 host (.error ⟨"offline", "Error: offline"⟩)
    (after [.hook .onForeground host, .hook .onPushWake host, offline, offline, offline, offline,
      offline]).Served 1 := by
  intro host offline
  exact (run_losesNoWake [.hook .onForeground host, .hook .onPushWake host, offline, offline,
    offline, offline, offline] (by decide)).2.1 7 rfl 1 (by decide)

/-- The phone resumes without a network, and the wake that would have told of the network falls
between the decision to stop and `finally`. The adapter is idle, and no pass heard the wake. -/
theorem wake_absorbed : ¬ ∀ es : List (Event Unit), (after es).running = false →
    ∀ n < (after es).hooks, (after es).Served n := by
  intro h
  let host : Host := ⟨fun _ => true, 0⟩
  let offline : Event Unit := .turn 0 host (.error ⟨"offline", "Error: offline"⟩)
  obtain ⟨q, hq, hn, _⟩ := h [.hook .onForeground host, offline, offline,
    .hook .onNetworkAvailable host, offline] rfl 1 (by decide)
  have hpasses : q.heard = 1 := by
    rw [mem_singleton.1 hq]
    rfl
  omega

end Adapter

end RezChat.Mobile
