/-
The account-control channel (`runtime/AccountControlChannel.js`).

Account authority is exposed only while a control client is open. The channel opens one on demand,
shares it between the work items that are under way, and tears it down when it is idle, when the
app goes to the background (`suspend`), and when the channel is closed.

Opening and tearing down are asynchronous. A client is made, connects, and is handed to the callers
that wait for it; a teardown disconnects a client that the channel has already let go of. Each of
these is a list of stages here, and whatever is awaited takes effect in one step and is answered in
a later one, so that anything may come between.

A client in use is torn down by nothing but `close`, and `execute` works after `suspend`, in every
run. The rest holds of the runs in which nothing crosses an opening or a teardown: `close` during an
opening finds no client and resolves, and the client comes to life after it; an opening that begins
while a client is being torn down makes two; and a client whose `disconnect` fails, or whose
`connect` fails late, is open with nobody to close it.
-/
import RezChat.Lib.Runs
import RezChat.Lib.Table
import RezChat.Lib.Tasks

set_option autoImplicit false

namespace RezChat.Runtime

open List Option Table

/-! ## Clients -/

/-- Which of the two functions a client has that `#teardownClient` looks for. -/
structure Features where
  disconnect : Bool
  stop : Bool

/-- A client that has one of them. -/
def Features.closes (f : Features) : Bool := f.disconnect || f.stop

/-- How far the opening of a client is. -/
inductive Stage where
  /-- `#clientFactory` is making it. -/
  | making
  /-- It is connecting. -/
  | connecting
  /-- `connect` has succeeded; the opening has not gone on. -/
  | connected
  /-- `connect` has failed; the opening has not gone on. -/
  | broken
  /-- The promise of the opening is resolved, or rejected. -/
  | resolved
  | rejected

def Stage.settled : Stage → Bool
  | .resolved | .rejected => true
  | _ => false

/-- A client, with its opening; `live` while its session is open. -/
structure Client where
  features : Features
  stage : Stage
  live : Bool

/-- The opening up to its first await. With a factory that is the making of the client; without
one the client is created at once, which may throw. -/
def Client.begin (factory : Bool) (created : Option Features) : Client :=
  if factory then ⟨⟨false, false⟩, .making, false⟩
  else
    match created with
    | some f => ⟨f, .connecting, false⟩
    | none => ⟨⟨false, false⟩, .rejected, false⟩

/-! ## Calls -/

/-- How far a call of `execute` is. -/
inductive ExecutePhase where
  /-- It awaits `#connectPromise`, which it started if it is the owner. -/
  | waits (c : Nat) (owner : Bool)
  /-- `#ensureClient` has yielded a client. -/
  | ensured (c : Nat)
  /-- `#ensureClient` has failed. -/
  | refused
  | working (c : Nat)
  | ended (ok : Bool)
  deriving DecidableEq

/-- Who tears a client down. -/
inductive Verb where
  | close
  | suspend
  | idle
  deriving DecidableEq

/-- How far a teardown is. -/
inductive TeardownPhase where
  | disconnecting (c : Nat)
  /-- `disconnect` is over; the teardown has not gone on. -/
  | disconnected (c : Nat) (ok : Bool)
  | stopping (c : Nat)
  /-- `#teardownClient` is over; its caller has not gone on. -/
  | settled (ok : Bool)
  | ended (ok : Bool)
  deriving DecidableEq

inductive Call where
  | execute (p : ExecutePhase)
  | teardown (verb : Verb) (p : TeardownPhase)
  deriving DecidableEq

namespace Call

/-- A call of `execute` that is not over. -/
def isRunning : Call → Bool
  | .execute (.ended _) => false
  | .execute _ => true
  | .teardown _ _ => false

/-- The opening that the call started and has not cleared. -/
def owns : Call → Option Nat
  | .execute (.waits c true) => some c
  | _ => none

/-- The client that a work item uses, or is going to use. -/
def holds : Call → Option Nat
  | .execute (.waits c _) => some c
  | .execute (.ensured c) => some c
  | .execute (.working c) => some c
  | _ => none

/-- The client that the call is tearing down. -/
def dismantles : Call → Option Nat
  | .teardown _ (.disconnecting c) => some c
  | .teardown _ (.disconnected c _) => some c
  | .teardown _ (.stopping c) => some c
  | _ => none

def isClose : Call → Bool
  | .teardown .close _ => true
  | _ => false

def isTeardown : Call → Bool
  | .teardown _ _ => true
  | .execute _ => false

end Call

/-! ## The channel -/

/-- The fields of the channel, the clients it ever made, and the calls it ever took. -/
structure Channel where
  client : Option Nat
  connectPromise : Option Nat
  inFlight : Nat
  idleTimer : Bool
  closed : Bool
  executeCount : Nat
  clients : List Client
  calls : List Call

namespace Channel

/-- `constructor`. -/
def start : Channel := ⟨none, none, 0, false, false, 0, [], []⟩

def setCall (s : Channel) (k : Nat) (q : Call) : Channel := { s with calls := s.calls.set k q }

def addCall (s : Channel) (q : Call) : Channel := { s with calls := s.calls ++ [q] }

def setClient (s : Channel) (c : Nat) (x : Client) : Channel :=
  { s with clients := s.clients.set c x }

/-- What the teardown of a client does after `disconnect`. -/
def stopNext (f : Features) (c : Nat) : TeardownPhase :=
  if f.stop then .stopping c else .settled true

/-- `#teardownClient`, up to its first await. -/
def dismantle (f : Features) (c : Nat) : TeardownPhase :=
  if f.disconnect then .disconnecting c else stopNext f c

def features (s : Channel) (c : Nat) : Features :=
  match s.clients[c]? with
  | some x => x.features
  | none => ⟨false, false⟩

/-- `#teardownClient`, for one of its callers. -/
def teardownClient (s : Channel) (verb : Verb) : Channel :=
  let p := match s.client with
    | some c => dismantle (s.features c) c
    | none => .settled true
  { s with client := none }.addCall (.teardown verb p)

/-- A call of `execute` starts an opening, and waits for it. -/
def openClient (s : Channel) (factory : Bool) (created : Option Features) : Channel :=
  { s with
    connectPromise := some s.clients.length
    clients := s.clients ++ [Client.begin factory created] }.addCall
      (.execute (.waits s.clients.length true))

/-- `#ensureClient`, up to its first await. -/
def ensureClient (s : Channel) (factory : Bool) (created : Option Features) : Channel :=
  match s.client, s.connectPromise with
  | some c, _ => s.addCall (.execute (.ensured c))
  | none, some c => s.addCall (.execute (.waits c false))
  | none, none => s.openClient factory created

/-- `execute`, up to the call of `#ensureClient`. -/
def accept (s : Channel) : Channel :=
  { s with executeCount := s.executeCount + 1, idleTimer := false, inFlight := s.inFlight + 1 }

/-- `execute`, up to its first await. -/
def execute (s : Channel) (factory : Bool) (created : Option Features) : Channel :=
  if s.closed then s else s.accept.ensureClient factory created

/-- `close`, up to its first await. -/
def close (s : Channel) : Channel :=
  { s with closed := true, idleTimer := false }.teardownClient .close

/-- `suspend`, up to its first await: the reason why nothing is suspended, or the teardown. -/
def suspend (s : Channel) : Channel × Option String :=
  if s.closed then (s, some "closed")
  else if 0 < s.inFlight then (s, some "work-in-flight")
  else if s.client = none ∧ s.connectPromise = none then
    ({ s with idleTimer := false }, some "no-session")
  else ({ s with idleTimer := false }.teardownClient .suspend, none)

/-- The callback of the idle timer. -/
def idleFires (s : Channel) : Channel :=
  if s.idleTimer then { s with idleTimer := false }.teardownClient .idle else s

/-! ### After an await -/

/-- The opening of a client goes on, or what it awaits takes effect. -/
def clientTurn (s : Channel) (c : Nat) (r : Response) (made : Features) : Channel :=
  match s.clients[c]? with
  | none => s
  | some x =>
    match x.stage with
    | .making =>
      if r = .ok then s.setClient c { x with features := made, stage := .connecting }
      else s.setClient c { x with stage := .rejected }
    | .connecting =>
      match r with
      | .ok => s.setClient c { x with stage := .connected, live := true }
      | .throws => s.setClient c { x with stage := .broken }
      | .throwsLate => s.setClient c { x with stage := .broken, live := true }
    | .connected => { s with client := some c }.setClient c { x with stage := .resolved }
    | .broken => s.setClient c { x with stage := .rejected }
    | .resolved => s
    | .rejected => s

/-- The `finally` of `execute`. -/
def finish (s : Channel) (k : Nat) (ok : Bool) : Channel :=
  { s with
    inFlight := s.inFlight - 1
    idleTimer := if s.inFlight - 1 = 0 ∧ s.client.isSome then true else s.idleTimer }.setCall k
      (.execute (.ended ok))

/-- The `finally` of `#ensureClient`, which only the owner of the opening reaches. -/
def cleared (s : Channel) (owner : Bool) : Channel :=
  if owner then { s with connectPromise := none } else s

/-- What a call that waits for an opening goes on with. -/
def ensuredBy (c : Nat) : Stage → Option ExecutePhase
  | .resolved => some (.ensured c)
  | .rejected => some .refused
  | _ => none

def executeTurn (s : Channel) (k : Nat) (r : Response) : ExecutePhase → Channel
  | .waits c owner =>
    match s.clients[c]?.bind fun x => ensuredBy c x.stage with
    | some p => (s.cleared owner).setCall k (.execute p)
    | none => s
  | .ensured c => s.setCall k (.execute (.working c))
  | .refused => s.finish k false
  | .working _ => s.finish k (decide (r = .ok))
  | .ended _ => s

/-- A `disconnect` or a `stop` of the client `c` comes to `r`. -/
def sessionEnds (s : Channel) (c : Nat) (r : Response) : Channel :=
  match s.clients[c]? with
  | some x => if r = .throws then s else s.setClient c { x with live := false }
  | none => s

def teardownTurn (s : Channel) (k : Nat) (r : Response) (verb : Verb) : TeardownPhase → Channel
  | .disconnecting c =>
    (s.sessionEnds c r).setCall k (.teardown verb (.disconnected c (decide (r = .ok))))
  | .disconnected c true => s.setCall k (.teardown verb (stopNext (s.features c) c))
  | .disconnected _ false => s.setCall k (.teardown verb (.settled false))
  | .stopping c => (s.sessionEnds c r).setCall k (.teardown verb (.settled (decide (r = .ok))))
  | .settled ok => s.setCall k (.teardown verb (.ended ok))
  | .ended _ => s

/-- A call goes on, or what it awaits takes effect. -/
def callTurn (s : Channel) (k : Nat) (r : Response) : Channel :=
  match s.calls[k]? with
  | some (.execute p) => s.executeTurn k r p
  | some (.teardown verb p) => s.teardownTurn k r verb p
  | none => s

/-! ### Runs -/

inductive Event where
  | execute (created : Option Features)
  | close
  | suspend
  | idleFires
  | clientTurn (c : Nat) (r : Response) (made : Features)
  | callTurn (k : Nat) (r : Response)

/-- One step, of a channel with a client factory or without one. -/
def step (factory : Bool) (s : Channel) : Event → Channel
  | .execute created => s.execute factory created
  | .close => s.close
  | .suspend => s.suspend.1
  | .idleFires => s.idleFires
  | .clientTurn c r made => s.clientTurn c r made
  | .callTurn k r => s.callTurn k r

def after (factory : Bool) (es : List Event) : Channel := Runs.run (step factory) start es

/-! ### The laws -/

/-- The session of the client `c` is open. -/
def Live (s : Channel) (c : Nat) : Prop := ∃ x, s.clients[c]? = some x ∧ x.live = true

/-- At most one client is open. -/
def OneLive (s : Channel) : Prop := ∀ c d, s.Live c → s.Live d → c = d

/-- A client that a work item uses is torn down by nothing but `close`. -/
def UseRespected (s : Channel) : Prop :=
  ∀ c, .execute (.working c) ∈ s.calls → ∀ q ∈ s.calls, q.dismantles = some c → q.isClose = true

/-- Once a `close` has resolved, no client is open. -/
def ClosedForGood (s : Channel) : Prop :=
  .teardown .close (.ended true) ∈ s.calls → ∀ c, ¬ s.Live c

/-- What is left of an opening that succeeds, for the call `k` that waits for it. -/
def opens (factory : Bool) (c k : Nat) (f : Features) : List Event :=
  (if factory then [.clientTurn c .ok f] else []) ++
    [.clientTurn c .ok f, .clientTurn c .ok f, .callTurn k .ok, .callTurn k .ok]

/-- `suspend` leaves work in flight alone; and after it the next `execute` works, on a client of its
own. -/
def WorksAgain (factory : Bool) (s : Channel) : Prop :=
  s.closed = false →
    (0 < s.inFlight → s.suspend.1 = s) ∧
    (s.inFlight = 0 → ∀ f : Features,
      let t := s.suspend.1
      let t' := Runs.run (step factory) t
        (.execute (some f) :: opens factory t.clients.length t.calls.length f)
      t'.calls[t.calls.length]? = some (.execute (.working t.clients.length)) ∧
        t'.Live t.clients.length)

/-! ### The condition -/

def liveAt (s : Channel) (c : Nat) : Bool :=
  match s.clients[c]? with
  | some x => x.live
  | none => false

/-- A client is being opened. -/
def opening (s : Channel) : Bool := s.clients.any fun x => !x.stage.settled

/-- A client is being torn down, and its session is still open. -/
def dismantling (s : Channel) : Bool := s.calls.any fun q =>
  match q.dismantles with
  | some c => s.liveAt c
  | none => false

/-- The opening of a client comes to `r`. -/
def OpensCleanly (r : Response) (made : Features) (x : Client) : Prop :=
  match x.stage with
  | .making => made.closes = true
  | .connecting => r ≠ .throwsLate
  | _ => True

instance (r : Response) (made : Features) : ∀ x, Decidable (OpensCleanly r made x) := fun x => by
  unfold OpensCleanly
  cases x.stage <;> infer_instance

/-- An `execute` has to open a client of its own. -/
def vacant (s : Channel) : Bool := !s.closed && s.client.isNone && s.connectPromise.isNone

/-- Nothing crosses an opening or a teardown, and neither leaves a client open that nobody holds. -/
def Uncrossed (s : Channel) : Event → Prop
  | .execute created => s.vacant = true → s.dismantling = false ∧ ∀ f ∈ created, f.closes = true
  | .close => s.opening = false ∧ s.dismantling = false
  | .suspend => True
  | .idleFires => True
  | .clientTurn c r made => ∀ x ∈ s.clients[c]?, OpensCleanly r made x
  | .callTurn k r => ∀ q ∈ s.calls[k]?, ∀ c ∈ q.dismantles, s.liveAt c = true → r ≠ .throws

instance (s : Channel) (e : Event) : Decidable (s.Uncrossed e) := by
  cases e <;> unfold Uncrossed <;> infer_instance

end Channel

/-! ## Who holds what -/

namespace Channel

variable {s : Channel} {c k : Nat} {x y : Client} {q t : Call} {factory : Bool}

/-- What the fields of the channel have to do with its openings and its calls. -/
structure Sound (s : Channel) : Prop where
  inFlight : s.inFlight = s.calls.countP Call.isRunning
  timer : s.idleTimer = true → s.inFlight = 0
  /-- A promise that is kept has one owner. -/
  owner : s.calls.countP (fun q => q.owns.isSome) = if s.connectPromise.isSome then 1 else 0
  owned : ∀ q ∈ s.calls, ∀ c, q.owns = some c → s.connectPromise = some c
  promised : ∀ c, s.connectPromise = some c → c < s.clients.length
  pending : ∀ (c : Nat) (x : Client), s.clients[c]? = some x → x.stage.settled = false →
    s.connectPromise = some c ∧ s.client = none
  current : ∀ c, s.client = some c → ∃ x, s.clients[c]? = some x ∧ x.stage = .resolved
  torn : ∀ q ∈ s.calls, ∀ c, q.dismantles = some c →
    s.client ≠ some c ∧ ∃ x, s.clients[c]? = some x ∧ x.stage = .resolved
  /-- Nobody holds a client that something else than `close` tears down, or is going to. -/
  apart : ∀ q ∈ s.calls, ∀ c, q.dismantles = some c → q.isClose = false →
    s.connectPromise ≠ some c ∧ ∀ t ∈ s.calls, t.holds ≠ some c

theorem sound_start : Sound start where
  inFlight := rfl
  timer h := absurd h Bool.false_ne_true
  owner := rfl
  owned _ h := nomatch h
  promised _ h := nomatch h
  pending _ _ h := nomatch h
  current _ h := nomatch h
  torn _ h := nomatch h
  apart _ h := nomatch h

/-- While nothing is in flight, no call of `execute` runs. -/
theorem Sound.notRunning (h : Sound s) (hidle : s.inFlight = 0) (hq : q ∈ s.calls) :
    q.isRunning = false := by
  have hzero : s.calls.countP Call.isRunning = 0 := h.inFlight.symm.trans hidle
  exact Bool.not_eq_true _ |>.mp (countP_eq_zero.1 hzero q hq)

theorem isRunning_of_owns {q : Call} (h : q.owns = some c) : q.isRunning = true := by
  cases q with
  | execute p => cases p <;> first | rfl | cases h
  | teardown verb p => cases h

theorem isRunning_of_holds {q : Call} (h : q.holds = some c) : q.isRunning = true := by
  cases q with
  | execute p => cases p <;> first | rfl | cases h
  | teardown verb p => cases h

section

variable (h : Sound s)
include h

/-- Nor is anything being opened. -/
theorem Sound.noPromise (hidle : s.inFlight = 0) : s.connectPromise = none := by
  by_cases hsome : s.connectPromise.isSome = true
  · have howner := h.owner
    rw [if_pos hsome] at howner
    obtain ⟨q, hq, howns⟩ := countP_pos_iff.1 (howner ▸ Nat.one_pos)
    obtain ⟨c, hc⟩ := isSome_iff_exists.1 howns
    have hrunning := isRunning_of_owns hc
    rw [h.notRunning hidle hq] at hrunning
    exact absurd hrunning Bool.false_ne_true
  · exact not_isSome_iff_eq_none.1 hsome

/-! ### What keeps it -/

/-- A call goes on as what it was. -/
theorem Sound.setCall (hq : s.calls[k]? = some q) (hrunning : t.isRunning = q.isRunning)
    (howns : t.owns = q.owns) (hholds : t.holds = none ∨ t.holds = q.holds)
    (hdismantles : t.dismantles = none ∨ t.dismantles = q.dismantles ∧ t.isClose = q.isClose) :
    Sound (s.setCall k t) := by
  have hmem : q ∈ s.calls := mem_of_getElem? hq
  refine ⟨?_, h.timer, ?_, fun t' ht' c hc => ?_, h.promised, h.pending, h.current,
    fun t' ht' c hc => ?_, fun t' ht' c hc hclose => ?_⟩
  · have hcount := countP_set (a := t) Call.isRunning hq
    rw [hrunning] at hcount
    have hflight := h.inFlight
    show s.inFlight = (s.calls.set k t).countP Call.isRunning
    omega
  · have hcount := countP_set (a := t) (fun q => q.owns.isSome) hq
    rw [howns] at hcount
    have howner := h.owner
    show (s.calls.set k t).countP (fun q => q.owns.isSome) = if s.connectPromise.isSome then 1 else 0
    omega
  · rcases mem_set ht' with hold | hnew
    · exact h.owned t' hold c hc
    · rw [hnew, howns] at hc
      exact h.owned q hmem c hc
  · rcases mem_set ht' with hold | hnew
    · exact h.torn t' hold c hc
    · rw [hnew] at hc
      rcases hdismantles with hnone | ⟨hsame, _⟩
      · rw [hnone] at hc
        cases hc
      · exact h.torn q hmem c (hsame ▸ hc)
  · have hold : ∃ q' ∈ s.calls, q'.dismantles = some c ∧ q'.isClose = false := by
      rcases mem_set ht' with hold | hnew
      · exact ⟨t', hold, hc, hclose⟩
      · rw [hnew] at hc hclose
        rcases hdismantles with hnone | ⟨hsame, hsame'⟩
        · rw [hnone] at hc
          cases hc
        · exact ⟨q, hmem, hsame ▸ hc, hsame' ▸ hclose⟩
    obtain ⟨q', hq', hc', hclose'⟩ := hold
    obtain ⟨hpromise, hheld⟩ := h.apart q' hq' c hc' hclose'
    refine ⟨hpromise, fun u hu => ?_⟩
    rcases mem_set hu with hold | hnew
    · exact hheld u hold
    · rw [hnew]
      rcases hholds with hnone | hsame
      · rw [hnone]
        exact fun hne => (nomatch hne)
      · rw [hsame]
        exact hheld q hmem

/-- A client goes on in its stages; one that is resolved stays so. -/
theorem Sound.setClient (hx : s.clients[c]? = some x)
    (hpending : y.stage.settled = false → x.stage.settled = false)
    (hresolved : x.stage = .resolved → y.stage = .resolved) : Sound (s.setClient c y) := by
  have hstays : ∀ d : Nat, (∃ z : Client, s.clients[d]? = some z ∧ z.stage = .resolved) →
      ∃ z : Client, (s.clients.set c y)[d]? = some z ∧ z.stage = .resolved := by
    rintro d ⟨z, hz, hstage⟩
    by_cases hdc : d = c
    · subst hdc
      refine ⟨y, set_self hx, hresolved ?_⟩
      rw [some_inj.1 (hx.symm.trans hz)]
      exact hstage
    · exact ⟨z, set_other hdc hz, hstage⟩
  refine ⟨h.inFlight, h.timer, h.owner, h.owned, fun d hd => ?_, fun d z hz hstage => ?_,
    fun d hd => hstays d (h.current d hd), fun q hq d hd => ?_, h.apart⟩
  · show d < (s.clients.set c y).length
    rw [length_set]
    exact h.promised d hd
  · rcases getElem_set hz with ⟨hdc, hzy⟩ | ⟨_, hold⟩
    · rw [hdc]
      exact h.pending c x hx (hpending (hzy ▸ hstage))
    · exact h.pending d z hold hstage
  · exact ⟨(h.torn q hq d hd).1, hstays d (h.torn q hq d hd).2⟩

/-- The opening of the client `c` is resolved. -/
theorem Sound.handOver (hx : s.clients[c]? = some x)
    (hpending : x.stage.settled = false) :
    Sound ({ s with client := some c }.setClient c { x with stage := .resolved }) := by
  have hafter := h.setClient (y := { x with stage := .resolved }) hx
    (fun hf => absurd hf.symm Bool.false_ne_true) (fun _ => rfl)
  obtain ⟨hpromise, hnone⟩ := h.pending c x hx hpending
  refine ⟨hafter.inFlight, hafter.timer, hafter.owner, hafter.owned, hafter.promised,
    fun d z hz hstage => ?_, fun d hd => ?_, fun q hq d hd => ⟨?_, (hafter.torn q hq d hd).2⟩,
    hafter.apart⟩
  · -- no other opening was under way
    rcases getElem_set hz with ⟨_, hzy⟩ | ⟨hdc, hold⟩
    · rw [hzy] at hstage
      exact absurd hstage.symm Bool.false_ne_true
    · have hd := (h.pending d z hold hstage).1
      exact absurd (some_inj.1 (hd.symm.trans hpromise)) hdc
  · have hdc : c = d := some_inj.1 hd
    exact hdc ▸ ⟨_, set_self hx, rfl⟩
  · -- what is torn down was opened before
    obtain ⟨z, hz, hstage⟩ := (h.torn q hq d hd).2
    intro hdc
    have hcd : c = d := some_inj.1 hdc
    subst hcd
    rw [some_inj.1 (hx.symm.trans hz), hstage] at hpending
    exact absurd hpending.symm Bool.false_ne_true

end

theorem dismantles_dismantle (verb : Verb) (f : Features) (c : Nat) :
    (Call.teardown verb (dismantle f c)).dismantles = none ∨
      (Call.teardown verb (dismantle f c)).dismantles = some c := by
  rw [dismantle, stopNext]
  by_cases hdisconnect : f.disconnect = true
  · rw [if_pos hdisconnect]
    exact .inr rfl
  · rw [if_neg hdisconnect]
    by_cases hstop : f.stop = true
    · rw [if_pos hstop]
      exact .inr rfl
    · rw [if_neg hstop]
      exact .inl rfl

/-- The call that tears a client down. -/
def teardownCall (s : Channel) (verb : Verb) : Call :=
  .teardown verb (match s.client with
    | some c => dismantle (s.features c) c
    | none => .settled true)

theorem dismantles_teardownCall {verb : Verb} (h : (s.teardownCall verb).dismantles = some c) :
    s.client = some c := by
  rw [teardownCall] at h
  cases hclient : s.client with
  | none =>
    rw [hclient] at h
    cases h
  | some d =>
    rw [hclient] at h
    rcases dismantles_dismantle verb (s.features d) d with hnone | hsome
    · exact absurd (hnone.symm.trans h) (fun hne => nomatch hne)
    · exact hsome.symm.trans h

/-- A teardown other than of `close` starts while nothing is in flight. -/
theorem Sound.teardownClient (h : Sound s) (verb : Verb)
    (hidle : verb ≠ .close → s.inFlight = 0) : Sound (s.teardownClient verb) := by
  have hcalls : (s.teardownClient verb).calls = s.calls ++ [s.teardownCall verb] := rfl
  refine ⟨?_, h.timer, ?_, fun q hq c hc => ?_, h.promised,
    fun c x hx hstage => ⟨(h.pending c x hx hstage).1, rfl⟩, fun c hc => (nomatch hc),
    fun q hq c hc => ⟨fun hne => (nomatch hne), ?_⟩, fun q hq c hc hclose => ⟨?_, fun t ht => ?_⟩⟩
  · rw [hcalls, Table.countP_append]
    exact h.inFlight
  · rw [hcalls, Table.countP_append]
    exact h.owner
  · rcases mem_append hq with hold | hnew
    · exact h.owned q hold c hc
    · rw [hnew] at hc
      cases hc
  · rcases mem_append hq with hold | hnew
    · exact (h.torn q hold c hc).2
    · rw [hnew] at hc
      exact h.current c (dismantles_teardownCall hc)
  · rcases mem_append hq with hold | hnew
    · exact (h.apart q hold c hc hclose).1
    · have hverb : verb ≠ .close := fun hv => by
        rw [hnew, hv] at hclose
        exact absurd hclose.symm Bool.false_ne_true
      show s.connectPromise ≠ some c
      rw [h.noPromise (hidle hverb)]
      exact fun hne => (nomatch hne)
  · have hheld : t ∈ s.calls → t.holds ≠ some c := by
      intro hold
      rcases mem_append hq with hqold | hnew
      · exact (h.apart q hqold c hc hclose).2 t hold
      · have hverb : verb ≠ .close := fun hv => by
          rw [hnew, hv] at hclose
          exact absurd hclose.symm Bool.false_ne_true
        intro hholds
        have hrunning := isRunning_of_holds hholds
        rw [h.notRunning (hidle hverb) hold] at hrunning
        exact absurd hrunning Bool.false_ne_true
    rcases mem_append ht with hold | hnew
    · exact hheld hold
    · rw [hnew]
      exact fun hne => (nomatch hne)

/-- A call of `execute` is added. -/
theorem Sound.addExecute (h : Sound s) {p : ExecutePhase} (hrunning : (Call.execute p).isRunning = true)
    (howns : (Call.execute p).owns = none)
    (hholds : ∀ c, (Call.execute p).holds = some c → s.client = some c ∨ s.connectPromise = some c) :
    Sound (s.accept.addCall (.execute p)) := by
  refine ⟨?_, fun ht => absurd ht Bool.false_ne_true, ?_, fun q hq c hc => ?_, h.promised,
    h.pending, h.current, fun q hq c hc => ?_, fun q hq c hc hclose => ?_⟩
  · show s.inFlight + 1 = (s.calls ++ [Call.execute p]).countP Call.isRunning
    rw [Table.countP_append, hrunning, h.inFlight]
    rfl
  · show (s.calls ++ [Call.execute p]).countP (fun q => q.owns.isSome) = _
    rw [Table.countP_append, howns]
    exact h.owner
  · rcases mem_append hq with hold | hnew
    · exact h.owned q hold c hc
    · rw [hnew, howns] at hc
      cases hc
  · rcases mem_append hq with hold | hnew
    · exact h.torn q hold c hc
    · rw [hnew] at hc
      cases hc
  · rcases mem_append hq with hold | hnew
    · obtain ⟨hpromise, hheld⟩ := h.apart q hold c hc hclose
      refine ⟨hpromise, fun t ht => ?_⟩
      rcases mem_append ht with hold' | hnew'
      · exact hheld t hold'
      · rw [hnew']
        intro hp
        rcases hholds c hp with hclient | hpending
        · exact (h.torn q hold c hc).1 hclient
        · exact hpromise hpending
    · rw [hnew] at hc
      cases hc

/-- What `execute` does, by what it finds. -/
theorem execute_cases (s : Channel) (factory : Bool) (created : Option Features) :
    s.execute factory created = s ∨
      (∃ c, s.client = some c ∧
        s.execute factory created = s.accept.addCall (.execute (.ensured c))) ∨
      (∃ c, s.connectPromise = some c ∧
        s.execute factory created = s.accept.addCall (.execute (.waits c false))) ∨
      s.vacant = true ∧ s.execute factory created = s.accept.openClient factory created := by
  rw [execute]
  by_cases hclosed : s.closed = true
  · rw [if_pos hclosed]
    exact .inl rfl
  rw [if_neg hclosed]
  by_cases hclient : s.client = none
  · by_cases hpromise : s.connectPromise = none
    · refine .inr (.inr (.inr ⟨?_, ?_⟩))
      · simp [vacant, hclosed, hclient, hpromise]
      · simp only [ensureClient, accept, hclient, hpromise]
    · obtain ⟨c, hc⟩ := ne_none_iff_exists'.1 hpromise
      exact .inr (.inr (.inl ⟨c, hc, by simp only [ensureClient, accept, hclient, hc]⟩))
  · obtain ⟨c, hc⟩ := ne_none_iff_exists'.1 hclient
    exact .inr (.inl ⟨c, hc, by simp only [ensureClient, accept, hc]⟩)

theorem Sound.openClient (h : Sound s) (hclient : s.client = none)
    (hpromise : s.connectPromise = none) (factory : Bool) (created : Option Features) :
    Sound (s.accept.openClient factory created) := by
  -- the opening is new: nothing speaks of it yet
  have hfresh : ∀ d, s.clients[d]? ≠ none → d ≠ s.clients.length := fun d hd hlen =>
    hd (hlen ▸ getElem?_eq_none (Nat.le_refl _))
  let opener : Call := .execute (.waits s.clients.length true)
  have hnoOwner : s.calls.countP (fun q => q.owns.isSome) = 0 := by
    rw [h.owner, hpromise]
    rfl
  refine ⟨?_, fun ht => absurd ht Bool.false_ne_true, ?_, fun q hq d hd => ?_, fun d hd => ?_,
    fun d x hx hstage => ?_, fun d hd => ?_, fun q hq d hd => ?_, fun q hq d hd hclose => ?_⟩
  · show s.inFlight + 1 = (s.calls ++ [opener]).countP Call.isRunning
    rw [Table.countP_append, h.inFlight]
    rfl
  · show (s.calls ++ [opener]).countP (fun q : Call => q.owns.isSome) = 1
    rw [Table.countP_append, hnoOwner]
    rfl
  · rcases mem_append hq with hold | hnew
    · rw [countP_eq_zero] at hnoOwner
      exact absurd (isSome_iff_exists.2 ⟨d, hd⟩) (hnoOwner q hold)
    · rw [hnew] at hd
      exact hd
  · have hlen : s.clients.length = d := some_inj.1 hd
    show d < (s.clients ++ [Client.begin factory created]).length
    rw [length_append, length_singleton]
    omega
  · rcases getElem_append hx with ⟨hlen, _⟩ | ⟨_, hold⟩
    · exact ⟨congrArg some hlen.symm, hclient⟩
    · have hpending := (h.pending d x hold hstage).1
      rw [hpromise] at hpending
      cases hpending
  · have hnone : s.client = some d := hd
    rw [hclient] at hnone
    cases hnone
  · rcases mem_append hq with hold | hnew
    · obtain ⟨_, x, hx, hstage⟩ := h.torn q hold d hd
      exact ⟨fun hne => (nomatch hclient.symm.trans hne), x, append_left hx, hstage⟩
    · rw [hnew] at hd
      cases hd
  · rcases mem_append hq with hold | hnew
    · obtain ⟨_, x, hx, _⟩ := h.torn q hold d hd
      have hne : s.clients.length ≠ d := fun hlen =>
        hfresh d (by rw [hx]; exact fun hne => (nomatch hne)) hlen.symm
      refine ⟨fun hlen => hne (some_inj.1 hlen), fun t ht => ?_⟩
      rcases mem_append ht with hold' | hnew'
      · exact (h.apart q hold d hd hclose).2 t hold'
      · rw [hnew']
        exact fun hlen => hne (some_inj.1 hlen)
    · rw [hnew] at hd
      cases hd

theorem vacant_iff : s.vacant = true ↔
    s.closed = false ∧ s.client = none ∧ s.connectPromise = none := by
  simp [vacant, and_assoc]

section

variable (h : Sound s)
include h

theorem Sound.execute (factory : Bool) (created : Option Features) :
    Sound (s.execute factory created) := by
  rcases execute_cases s factory created with hs | ⟨c, hc, hs⟩ | ⟨c, hc, hs⟩ | ⟨hvacant, hs⟩
  · rw [hs]
    exact h
  · rw [hs]
    exact h.addExecute (p := .ensured c) rfl rfl fun d hd => .inl (hc.trans hd)
  · rw [hs]
    exact h.addExecute (p := .waits c false) rfl rfl fun d hd => .inr (hc.trans hd)
  · rw [hs]
    obtain ⟨_, hclient, hpromise⟩ := vacant_iff.1 hvacant
    exact h.openClient hclient hpromise factory created

theorem Sound.close : Sound s.close := by
  have hcleared : Sound { s with closed := true, idleTimer := false } :=
    ⟨h.inFlight, fun ht => absurd ht Bool.false_ne_true, h.owner, h.owned, h.promised, h.pending,
      h.current, h.torn, h.apart⟩
  exact hcleared.teardownClient .close fun hne => absurd rfl hne

theorem Sound.untimed : Sound { s with idleTimer := false } :=
  ⟨h.inFlight, fun ht => absurd ht Bool.false_ne_true, h.owner, h.owned, h.promised, h.pending,
    h.current, h.torn, h.apart⟩

theorem Sound.suspend : Sound s.suspend.1 := by
  rw [Channel.suspend]
  by_cases hclosed : s.closed = true
  · rw [if_pos hclosed]
    exact h
  rw [if_neg hclosed]
  by_cases hflight : 0 < s.inFlight
  · rw [if_pos hflight]
    exact h
  rw [if_neg hflight]
  by_cases hnone : s.client = none ∧ s.connectPromise = none
  · rw [if_pos hnone]
    exact h.untimed
  · rw [if_neg hnone]
    exact h.untimed.teardownClient .suspend fun _ => Nat.eq_zero_of_not_pos hflight

theorem Sound.idleFires : Sound s.idleFires := by
  rw [Channel.idleFires]
  by_cases htimer : s.idleTimer = true
  · rw [if_pos htimer]
    exact h.untimed.teardownClient .idle fun _ => h.timer htimer
  · rw [if_neg htimer]
    exact h

theorem Sound.sessionEnds (c : Nat) (r : Response) : Sound (s.sessionEnds c r) := by
  rw [Channel.sessionEnds]
  cases hx : s.clients[c]? with
  | none => exact h
  | some x =>
    simp only
    by_cases hr : r = .throws
    · rw [if_pos hr]
      exact h
    · rw [if_neg hr]
      exact h.setClient hx (fun hp => hp) (fun hres => hres)

end

@[simp] theorem calls_sessionEnds (s : Channel) (c : Nat) (r : Response) :
    (s.sessionEnds c r).calls = s.calls := by
  rw [Channel.sessionEnds]
  cases s.clients[c]? with
  | none => rfl
  | some x =>
    simp only
    by_cases hr : r = .throws
    · rw [if_pos hr]
    · rw [if_neg hr]
      rfl

/-- The owner of an opening clears the promise, and goes on. -/
theorem Sound.ownerGoesOn (h : Sound s) (hq : s.calls[k]? = some (.execute (.waits c true)))
    (hsettled : ∀ x ∈ s.clients[c]?, x.stage.settled = true) {p : ExecutePhase}
    (hrunning : (Call.execute p).isRunning = true) (howns : (Call.execute p).owns = none)
    (hholds : (Call.execute p).holds = none ∨ (Call.execute p).holds = some c) :
    Sound ((s.cleared true).setCall k (.execute p)) := by
  have hmem : Call.execute (.waits c true) ∈ s.calls := mem_of_getElem? hq
  have hpromise := h.owned _ hmem c rfl
  have hnoOwner : (s.calls.set k (.execute p)).countP (fun q => q.owns.isSome) = 0 := by
    have hcount := countP_set (a := Call.execute p) (fun q => q.owns.isSome) hq
    have howner := h.owner
    rw [hpromise, isSome_some, if_pos rfl] at howner
    rw [howns] at hcount
    have hone : (if (Call.execute (.waits c true)).owns.isSome then 1 else 0) = 1 := rfl
    have hzero : (if (none : Option Nat).isSome then 1 else 0) = 0 := rfl
    omega
  refine ⟨?_, h.timer, hnoOwner, fun t ht d hd => ?_, fun d hd => (nomatch hd), fun d x hx hstage => ?_,
    h.current, fun t ht d hd => ?_, fun t ht d hd hclose => ⟨fun hne => (nomatch hne), fun u hu => ?_⟩⟩
  · have hcount := countP_set (a := Call.execute p) Call.isRunning hq
    have hone : (Call.execute (.waits c true)).isRunning = true := rfl
    rw [hrunning, hone] at hcount
    have hflight := h.inFlight
    show s.inFlight = (s.calls.set k (.execute p)).countP Call.isRunning
    omega
  · rw [countP_eq_zero] at hnoOwner
    exact absurd (isSome_iff_exists.2 ⟨d, hd⟩) (hnoOwner t ht)
  · -- the opening that was cleared was the only one
    have hdc : c = d := some_inj.1 (hpromise.symm.trans (h.pending d x hx hstage).1)
    subst hdc
    have hover := hsettled x hx
    rw [hstage] at hover
    exact absurd hover Bool.false_ne_true
  · rcases mem_set ht with hold | hnew
    · exact h.torn t hold d hd
    · rw [hnew] at hd
      cases hd
  · rcases mem_set ht with hold | hnew
    · rcases mem_set hu with hold' | hnew'
      · exact (h.apart t hold d hd hclose).2 u hold'
      · rw [hnew']
        rcases hholds with hnone | hsame
        · rw [hnone]
          exact fun hne => (nomatch hne)
        · rw [hsame]
          exact (h.apart t hold d hd hclose).2 _ hmem
    · rw [hnew] at hd
      cases hd

theorem calls_cleared (s : Channel) (owner : Bool) : (s.cleared owner).calls = s.calls := by
  cases owner <;> rfl

/-- A call of `execute` is over. -/
theorem Sound.finish (h : Sound s) (hq : s.calls[k]? = some q) (hrunning : q.isRunning = true)
    (howns : q.owns = none) (ok : Bool) : Sound (s.finish k ok) := by
  have hcount := countP_set (a := Call.execute (.ended ok)) Call.isRunning hq
  have hzero : (Call.execute (.ended ok)).isRunning = false := rfl
  rw [hrunning, hzero] at hcount
  have hflight := h.inFlight
  have hless : s.inFlight - 1 = (s.calls.set k (.execute (.ended ok))).countP Call.isRunning := by
    simp only [if_true, Bool.false_eq_true, if_false] at hcount
    omega
  refine ⟨hless, fun htimer => ?_, ?_, fun t ht c hc => ?_, h.promised, h.pending, h.current,
    fun t ht c hc => ?_, fun t ht c hc hclose => ?_⟩
  · have htimer' : (if s.inFlight - 1 = 0 ∧ s.client.isSome then true else s.idleTimer) = true :=
      htimer
    show s.inFlight - 1 = 0
    by_cases hlast : s.inFlight - 1 = 0 ∧ s.client.isSome
    · exact hlast.1
    · rw [if_neg hlast] at htimer'
      rw [h.timer htimer']
  · have hcount' := countP_set (a := Call.execute (.ended ok)) (fun q => q.owns.isSome) hq
    rw [howns] at hcount'
    have howner := h.owner
    have hnone : (Call.execute (.ended ok)).owns.isSome = (none : Option Nat).isSome := rfl
    rw [hnone] at hcount'
    show (s.calls.set k (.execute (.ended ok))).countP (fun q => q.owns.isSome) =
      if s.connectPromise.isSome then 1 else 0
    omega
  · rcases mem_set ht with hold | hnew
    · exact h.owned t hold c hc
    · rw [hnew] at hc
      cases hc
  · rcases mem_set ht with hold | hnew
    · exact h.torn t hold c hc
    · rw [hnew] at hc
      cases hc
  · rcases mem_set ht with hold | hnew
    · obtain ⟨hpromise, hheld⟩ := h.apart t hold c hc hclose
      refine ⟨hpromise, fun u hu => ?_⟩
      rcases mem_set hu with hold' | hnew'
      · exact hheld u hold'
      · rw [hnew']
        exact fun hne => (nomatch hne)
    · rw [hnew] at hc
      cases hc

/-- What a settled opening lets a call go on with. -/
theorem ensuredBy_some {stage : Stage} {p : ExecutePhase} (h : ensuredBy c stage = some p) :
    stage.settled = true ∧ (Call.execute p).isRunning = true ∧ (Call.execute p).owns = none ∧
      ((Call.execute p).holds = none ∨ (Call.execute p).holds = some c) := by
  cases stage with
  | resolved =>
    obtain rfl := some_inj.1 h
    exact ⟨rfl, rfl, rfl, .inr rfl⟩
  | rejected =>
    obtain rfl := some_inj.1 h
    exact ⟨rfl, rfl, rfl, .inl rfl⟩
  | making => cases h
  | connecting => cases h
  | connected => cases h
  | broken => cases h

theorem Sound.executeTurn (h : Sound s) {p : ExecutePhase} (hq : s.calls[k]? = some (.execute p))
    (r : Response) : Sound (s.executeTurn k r p) := by
  cases p with
  | waits c owner =>
    rw [Channel.executeTurn]
    cases hstage : s.clients[c]?.bind fun x => ensuredBy c x.stage with
    | none => exact h
    | some p =>
      obtain ⟨x, hx, hp⟩ := bind_eq_some_iff.1 hstage
      obtain ⟨hsettled, hrunning, howns, hholds⟩ := ensuredBy_some hp
      cases owner with
      | true =>
        refine h.ownerGoesOn hq (fun y hy => ?_) hrunning howns hholds
        rw [← some_inj.1 (hx.symm.trans hy)]
        exact hsettled
      | false => exact h.setCall hq hrunning howns hholds (.inl rfl)
  | ensured c => exact h.setCall hq rfl rfl (.inr rfl) (.inl rfl)
  | refused => exact h.finish hq rfl rfl false
  | working c => exact h.finish hq rfl rfl _
  | ended ok => exact h

theorem dismantles_stopNext (verb : Verb) (f : Features) (c : Nat) :
    (Call.teardown verb (stopNext f c)).dismantles = none ∨
      (Call.teardown verb (stopNext f c)).dismantles = some c := by
  rw [stopNext]
  by_cases hstop : f.stop = true
  · rw [if_pos hstop]
    exact .inr rfl
  · rw [if_neg hstop]
    exact .inl rfl

theorem isClose_teardown (verb : Verb) (p p' : TeardownPhase) :
    (Call.teardown verb p).isClose = (Call.teardown verb p').isClose := by
  cases verb <;> rfl

theorem Sound.teardownTurn (h : Sound s) {verb : Verb} {p : TeardownPhase}
    (hq : s.calls[k]? = some (.teardown verb p)) (r : Response) :
    Sound (s.teardownTurn k r verb p) := by
  have hends : ∀ c, (s.sessionEnds c r).calls[k]? = some (.teardown verb p) := fun c => by
    rw [calls_sessionEnds]
    exact hq
  cases p with
  | disconnecting c =>
    exact (h.sessionEnds c r).setCall (hends c) rfl rfl (.inl rfl)
      (.inr ⟨rfl, isClose_teardown verb _ _⟩)
  | disconnected c ok =>
    cases ok with
    | true =>
      refine h.setCall hq ?_ ?_ (.inl ?_) ?_
      · rfl
      · rfl
      · rfl
      · rcases dismantles_stopNext verb (s.features c) c with hnone | hsome
        · exact .inl hnone
        · exact .inr ⟨hsome, isClose_teardown verb _ _⟩
    | false => exact h.setCall hq rfl rfl (.inl rfl) (.inl rfl)
  | stopping c => exact (h.sessionEnds c r).setCall (hends c) rfl rfl (.inl rfl) (.inl rfl)
  | settled ok => exact h.setCall hq rfl rfl (.inl rfl) (.inl rfl)
  | ended ok => exact h

/-- Whoever holds a client has it torn down by nothing but `close`. -/
theorem Sound.useRespected (h : Sound s) : s.UseRespected := by
  intro c hworks q hq hdismantles
  by_cases hclose : q.isClose = true
  · exact hclose
  · exact absurd rfl ((h.apart q hq c hdismantles (Bool.not_eq_true _ |>.mp hclose)).2 _ hworks)

end Channel

end RezChat.Runtime
