/-
The bridge client of the browser (`client/transport/ChatBridgeClient.js`).

The client keeps one WebSocket, a map of the requests that have no answer yet, and a timer that
connects again. Every socket it ever made is in `sockets` here, with its callbacks: an event may
come from any of them, as long as the socket has not closed.

The callbacks read and write the fields of the client, not those of their socket, and `connect` makes
a socket whatever became of the one before. After `close` and `connect`, the close event of the old
socket comes late: it says that the new connection is gone, rejects its requests, and arms the timer
that makes a second one beside it. Where a socket is made only after the one before has delivered
its close event, the fields follow the socket (`run_followsSocket`). That every request is settled,
and settled once, needs no condition (`run_settled`).

The delay of the timer is not modelled, and the subscribers of an event only as the record of what
was dispatched.
-/
import RezChat.Inbox.Frame
import RezChat.Lib.OrdMap
import RezChat.Lib.Runs
import RezChat.Lib.Table

set_option autoImplicit false

namespace RezChat.Transport

open Option OrdMap Table Bool Runs

/-! ## Sockets -/

/-- What a socket has come to. `closing` is a socket that `close` was called on. -/
inductive SocketPhase where
  | connecting
  | opened
  | closing
  | closed
  deriving DecidableEq

/-- The promise of `#connectInternal`; `handled` once its `then` has run. -/
inductive ConnectPromise where
  | pending
  | resolved
  | rejected
  | handled
  deriving DecidableEq

/-- A socket; `reconnect` if the timer made it. -/
structure Socket where
  phase : SocketPhase
  promise : ConnectPromise
  reconnect : Bool

namespace Socket

def resolve (x : Socket) : Socket :=
  if x.promise = .pending then { x with promise := .resolved } else x

def reject (x : Socket) : Socket :=
  if x.promise = .pending then { x with promise := .rejected } else x

@[simp] theorem phase_reject (x : Socket) : x.reject.phase = x.phase := by
  rw [reject]
  by_cases hpending : x.promise = .pending
  · rw [if_pos hpending]
  · rw [if_neg hpending]

end Socket

/-! ## Requests -/

variable {ρ : Type}

/-- How the promise of a request is settled. -/
inductive Settled (ρ : Type) where
  | resolved (result : ρ)
  | rejected (code : Option String) (message : String)

/-- An entry of `#pendingRequests`, whose timer is armed; `promise` is the number of the request. -/
structure PendingRequest where
  promise : Nat
  method : String

/-- A parsed `bridge.res` frame: the message and the code of its error, where they are strings, and
what `rehydrateResult` makes of it. -/
structure BridgeResponse (ρ : Type) where
  reqId : String
  ok : Bool
  message : Option String
  code : Option String
  result : Except String ρ

/-- What `parseFrame` makes of a message. -/
inductive Frame (ρ : Type) where
  | unparseable
  | res (response : BridgeResponse ρ)
  | evt (event : String) (known : Bool)
  | other

/-- What comes of sending a request. -/
inductive Sending where
  | sent
  /-- The parameters cannot be serialized. -/
  | unserializable (message : String)
  /-- The socket refuses the frame. -/
  | refused (message : String)

/-- What the subscribers are told. -/
inductive Dispatched where
  | connectionState (status : String)
  | event (name : String)

/-- The promises of the requests, in the order of the calls. -/
abbrev Promises (ρ : Type) := List (Option (Settled ρ))

namespace Promises

/-- A promise is settled, unless it was before. -/
def settle (ps : Promises ρ) (i : Nat) (o : Settled ρ) : Promises ρ :=
  match ps[i]? with
  | some none => ps.set i (some o)
  | _ => ps

def settleAll (ps : Promises ρ) (requests : List PendingRequest) (o : Settled ρ) : Promises ρ :=
  requests.foldl (fun ps p => ps.settle p.promise o) ps

variable {ps : Promises ρ} {i j : Nat} {o o' : Settled ρ}

/-- What is settled stays as it is. -/
theorem settle_final (h : ps[i]? = some (some o)) : (ps.settle j o')[i]? = some (some o) := by
  rw [settle]
  cases hj : ps[j]? with
  | none => exact h
  | some p =>
    cases p with
    | some o'' => exact h
    | none =>
      have hij : i ≠ j := fun hij => by
        rw [hij, hj] at h
        cases h
      exact set_other hij h

/-- What is not settled was not, and it is another promise. -/
theorem settle_pending (h : (ps.settle j o')[i]? = some none) : i ≠ j ∧ ps[i]? = some none := by
  rw [settle] at h
  cases hj : ps[j]? with
  | none =>
    rw [hj] at h
    refine ⟨fun hij => ?_, h⟩
    rw [hij, hj] at h
    cases h
  | some p =>
    rw [hj] at h
    cases p with
    | some o'' =>
      refine ⟨fun hij => ?_, h⟩
      rw [hij, hj] at h
      cases h
    | none =>
      rcases getElem_set h with ⟨_, hnone⟩ | ⟨hij, hold⟩
      · cases hnone
      · exact ⟨hij, hold⟩

theorem settle_self (h : ps[i]? = some none) : (ps.settle i o)[i]? = some (some o) := by
  rw [settle, h]
  exact set_self h

theorem settleAll_final {requests : List PendingRequest} (h : ps[i]? = some (some o)) :
    (ps.settleAll requests o')[i]? = some (some o) := by
  induction requests generalizing ps with
  | nil => exact h
  | cons p requests ih => exact ih (settle_final h)

theorem settleAll_pending {requests : List PendingRequest}
    (h : (ps.settleAll requests o')[i]? = some none) :
    (∀ p ∈ requests, p.promise ≠ i) ∧ ps[i]? = some none := by
  induction requests generalizing ps with
  | nil => exact ⟨fun p hp => absurd hp List.not_mem_nil, h⟩
  | cons p requests ih =>
    obtain ⟨hrest, hps⟩ := ih h
    obtain ⟨hne, hold⟩ := settle_pending hps
    refine ⟨fun q hq => ?_, hold⟩
    rcases List.mem_cons.1 hq with hqp | hq
    · rw [hqp]
      exact fun hpi => hne hpi.symm
    · exact hrest q hq

end Promises

/-! ## The client -/

/-- The fields of the client, its sockets, the promises of its requests, and what it dispatched. -/
structure BridgeClient (ρ : Type) where
  ws : Option Nat
  reqIdCounter : Nat
  pendingRequests : OrdMap String PendingRequest
  connected : Bool
  intentionallyClosed : Bool
  reconnectTimer : Bool
  reconnectAttempts : Nat
  sockets : List Socket
  promises : Promises ρ
  dispatched : List Dispatched

namespace BridgeClient

/-- `constructor`. -/
def start : BridgeClient ρ := ⟨none, 0, OrdMap.empty, false, false, false, 0, [], [], []⟩

def setSocket (s : BridgeClient ρ) (k : Nat) (x : Socket) : BridgeClient ρ :=
  { s with sockets := s.sockets.set k x }

def dispatchEvent (s : BridgeClient ρ) (d : Dispatched) : BridgeClient ρ :=
  { s with dispatched := s.dispatched ++ [d] }

/-- `#rejectAllPending`. -/
def rejectAllPending (s : BridgeClient ρ) (reason : String) : BridgeClient ρ :=
  { s with
    promises := s.promises.settleAll s.pendingRequests.values (.rejected none reason)
    pendingRequests := OrdMap.empty }

/-- `#connectInternal`. Where no socket can be made, only its promise is rejected. -/
def connectInternal (s : BridgeClient ρ) (constructs reconnect : Bool) : BridgeClient ρ :=
  if constructs then
    { s with
      ws := some s.sockets.length
      sockets := s.sockets ++ [⟨.connecting, .pending, reconnect⟩] }
  else s

def connect (s : BridgeClient ρ) (constructs : Bool) : BridgeClient ρ :=
  { s with intentionallyClosed := false, reconnectAttempts := 0 }.connectInternal constructs false

/-- `#scheduleReconnect`. -/
def scheduleReconnect (s : BridgeClient ρ) : BridgeClient ρ :=
  if s.intentionallyClosed then s
  else if s.reconnectTimer then s
  else { s with reconnectTimer := true, reconnectAttempts := s.reconnectAttempts + 1 }

/-- The callback of the timer. -/
def timerFires (s : BridgeClient ρ) (constructs : Bool) : BridgeClient ρ :=
  if s.reconnectTimer then
    let s := { s with reconnectTimer := false }
    if s.intentionallyClosed then s else s.connectInternal constructs true
  else s

/-- `close` of a socket. -/
def closeSocket (s : BridgeClient ρ) (k : Nat) : BridgeClient ρ :=
  match s.sockets[k]? with
  | some x =>
    match x.phase with
    | .connecting => s.setSocket k { x with phase := .closing }
    | .opened => s.setSocket k { x with phase := .closing }
    | .closing => s
    | .closed => s
  | none => s

def close (s : BridgeClient ρ) : BridgeClient ρ :=
  let s := { s with intentionallyClosed := true, reconnectTimer := false }
  let s := match s.ws with
    | some k => s.closeSocket k
    | none => s
  { s with connected := false }.rejectAllPending "Client closed"

/-! ### The callbacks of a socket -/

def onopen (s : BridgeClient ρ) (k : Nat) (x : Socket) : BridgeClient ρ :=
  { s with connected := true, reconnectAttempts := 0 }.setSocket k
    { x.resolve with phase := .opened }

def onerror (s : BridgeClient ρ) (k : Nat) (x : Socket) : BridgeClient ρ :=
  if s.connected then s else s.setSocket k x.reject

def onclose (s : BridgeClient ρ) (k : Nat) (x : Socket) : BridgeClient ρ :=
  let wasConnected := s.connected
  let s := { s.setSocket k { x with phase := .closed } with connected := false }
  let s := s.rejectAllPending "WebSocket closed"
  let s := if wasConnected then s.dispatchEvent (.connectionState "disconnected") else s
  if s.intentionallyClosed then s else s.scheduleReconnect

/-- How a response settles its request. -/
def outcome (response : BridgeResponse ρ) : Settled ρ :=
  if response.ok then
    match response.result with
    | .ok result => .resolved result
    | .error message => .rejected none message
  else .rejected (some (response.code.getD "UNKNOWN")) (response.message.getD "Bridge request failed")

/-- `#handleResponse`. -/
def handleResponse (s : BridgeClient ρ) (response : BridgeResponse ρ) : BridgeClient ρ :=
  match s.pendingRequests.get? response.reqId with
  | some p =>
    { s with
      pendingRequests := s.pendingRequests.delete response.reqId
      promises := s.promises.settle p.promise (outcome response) }
  | none => s

/-- `#handleMessage`. -/
def handleMessage (s : BridgeClient ρ) : Frame ρ → BridgeClient ρ
  | .unparseable => s
  | .res response => s.handleResponse response
  | .evt event known => if known then s.dispatchEvent (.event event) else s
  | .other => s

/-- The `then` of a connection that the timer made. -/
def announce (s : BridgeClient ρ) (k : Nat) : BridgeClient ρ :=
  match s.sockets[k]? with
  | some x =>
    if x.reconnect ∧ x.promise = .resolved then
      (s.setSocket k { x with promise := .handled }).dispatchEvent (.connectionState "connected")
    else s
  | none => s

/-! ### Requests -/

/-- `#request`. -/
def request (s : BridgeClient ρ) (method : String) (sending : Sending) : BridgeClient ρ :=
  if s.connected = false ∨ s.ws = none then
    { s with promises := s.promises ++ [some (.rejected none "Not connected")] }
  else
    let n := s.reqIdCounter + 1
    let asked := s.pendingRequests.set ("r" ++ toString n) ⟨s.promises.length, method⟩
    match sending with
    | .unserializable message =>
      { s with reqIdCounter := n, promises := s.promises ++ [some (.rejected none message)] }
    | .refused message =>
      { s with
        reqIdCounter := n
        pendingRequests := asked
        promises := s.promises ++ [some (.rejected none message)] }
    | .sent =>
      { s with reqIdCounter := n, pendingRequests := asked, promises := s.promises ++ [none] }

/-- The timer of a request. -/
def timeout (s : BridgeClient ρ) (reqId : String) : BridgeClient ρ :=
  match s.pendingRequests.get? reqId with
  | some p =>
    { s with
      pendingRequests := s.pendingRequests.delete reqId
      promises := s.promises.settle p.promise
        (.rejected none ("Request timeout for " ++ p.method)) }
  | none => s

/-! ## Runs -/

inductive Event (ρ : Type) where
  | connect (constructs : Bool)
  | close
  | timerFires (constructs : Bool)
  | socketOpens (k : Nat)
  | socketErrs (k : Nat)
  | socketCloses (k : Nat)
  | message (k : Nat) (frame : Frame ρ)
  | announce (k : Nat)
  | request (method : String) (sending : Sending)
  | timeout (reqId : String)

/-- The socket that an event comes from. -/
def Event.socket : Event ρ → Option Nat
  | .socketOpens k => some k
  | .socketErrs k => some k
  | .socketCloses k => some k
  | .message k _ => some k
  | _ => none

/-- What a socket may deliver: it opens once, and after its close event there is nothing. -/
def delivers (x : Socket) : Event ρ → Bool
  | .socketOpens _ => decide (x.phase = .connecting)
  | .socketErrs _ => decide (x.phase ≠ .closed)
  | .socketCloses _ => decide (x.phase ≠ .closed)
  | .message _ _ => decide (x.phase = .opened) || decide (x.phase = .closing)
  | _ => false

/-- The callback that an event calls. -/
def called (s : BridgeClient ρ) (x : Socket) : Event ρ → BridgeClient ρ
  | .socketOpens k => s.onopen k x
  | .socketErrs k => s.onerror k x
  | .socketCloses k => s.onclose k x
  | .message _ frame => s.handleMessage frame
  | _ => s

/-- An event of the socket `k`. -/
def deliver (s : BridgeClient ρ) (k : Nat) (e : Event ρ) : BridgeClient ρ :=
  match s.sockets[k]? with
  | some x => if delivers x e then s.called x e else s
  | none => s

def step (s : BridgeClient ρ) (e : Event ρ) : BridgeClient ρ :=
  match e with
  | .connect constructs => s.connect constructs
  | .close => s.close
  | .timerFires constructs => s.timerFires constructs
  | .socketOpens k => s.deliver k e
  | .socketErrs k => s.deliver k e
  | .socketCloses k => s.deliver k e
  | .message k _ => s.deliver k e
  | .announce k => s.announce k
  | .request method sending => s.request method sending
  | .timeout reqId => s.timeout reqId

def after (es : List (Event ρ)) : BridgeClient ρ := run step start es

/-! ### The laws -/

/-- The socket `k` connects or is open. -/
def Live (s : BridgeClient ρ) (k : Nat) : Prop :=
  ∃ x, s.sockets[k]? = some x ∧ (x.phase = .connecting ∨ x.phase = .opened)

def OneLive (s : BridgeClient ρ) : Prop := ∀ j k, s.Live j → s.Live k → j = k

/-- The client is connected exactly when its socket is open. -/
def StateFollows (s : BridgeClient ρ) : Prop :=
  s.connected = true ↔ ∃ k x, s.ws = some k ∧ s.sockets[k]? = some x ∧ x.phase = .opened

/-- A request that is not settled is settled by its timer at the latest. -/
def Settles (s : BridgeClient ρ) : Prop :=
  ∀ i : Nat, s.promises[i]? = some none →
    ∃ reqId o, (s.timeout reqId).promises[i]? = some (some o)

/-- A request that is settled stays settled as it is. -/
def Final (s : BridgeClient ρ) (e : Event ρ) : Prop :=
  ∀ (i : Nat) (o : Settled ρ), s.promises[i]? = some (some o) →
    (s.step e).promises[i]? = some (some o)

/-- An event of another socket than the current one does not change the state, rejects no request,
and schedules no reconnect. -/
def Unmoved (s : BridgeClient ρ) (e : Event ρ) : Prop :=
  ∀ k, e.socket = some k → s.ws ≠ some k →
    (s.step e).connected = s.connected ∧ (s.step e).reconnectTimer = s.reconnectTimer ∧
      ∀ (i : Nat) (code : Option String) (message : String), s.promises[i]? = some none →
        (s.step e).promises[i]? ≠ some (some (.rejected code message))

/-! ### The condition -/

/-- Every socket has delivered its close event. -/
def allClosed (s : BridgeClient ρ) : Bool := s.sockets.all fun x => decide (x.phase = .closed)

/-- A socket is made only when every socket before has delivered its close event. -/
def Orderly (s : BridgeClient ρ) : Event ρ → Prop
  | .connect constructs => constructs = true → s.allClosed = true
  | .timerFires constructs =>
    s.reconnectTimer = true ∧ s.intentionallyClosed = false ∧ constructs = true →
      s.allClosed = true
  | _ => True

instance (s : BridgeClient ρ) (e : Event ρ) : Decidable (s.Orderly e) := by
  cases e <;> unfold Orderly <;> infer_instance

end BridgeClient

namespace BridgeClient

variable {s t : BridgeClient ρ} {k : Nat} {x y : Socket} {e : Event ρ}

/-! ## Every request is settled once -/

/-- Nothing was done to the requests. -/
def SameRequests (s t : BridgeClient ρ) : Prop :=
  t.promises = s.promises ∧ t.pendingRequests = s.pendingRequests ∧ t.reqIdCounter = s.reqIdCounter

theorem sameRequests_connectInternal (s : BridgeClient ρ) (constructs reconnect : Bool) :
    SameRequests s (s.connectInternal constructs reconnect) := by
  cases constructs <;> exact ⟨rfl, rfl, rfl⟩

theorem sameRequests_timerFires (s : BridgeClient ρ) (constructs : Bool) :
    SameRequests s (s.timerFires constructs) := by
  rw [timerFires]
  by_cases htimer : s.reconnectTimer = true
  · rw [if_pos htimer]
    by_cases hclosed : s.intentionallyClosed = true
    · simp only [if_pos hclosed]
      exact ⟨rfl, rfl, rfl⟩
    · simp only [if_neg hclosed]
      exact sameRequests_connectInternal _ constructs true
  · rw [if_neg htimer]
    exact ⟨rfl, rfl, rfl⟩

theorem sameRequests_closeSocket (s : BridgeClient ρ) (k : Nat) :
    SameRequests s (s.closeSocket k) := by
  rw [closeSocket]
  cases s.sockets[k]? with
  | none => exact ⟨rfl, rfl, rfl⟩
  | some x =>
    simp only
    cases x.phase <;> exact ⟨rfl, rfl, rfl⟩

theorem sameRequests_scheduleReconnect (s : BridgeClient ρ) :
    SameRequests s s.scheduleReconnect := by
  rw [scheduleReconnect]
  by_cases hclosed : s.intentionallyClosed = true
  · rw [if_pos hclosed]
    exact ⟨rfl, rfl, rfl⟩
  · rw [if_neg hclosed]
    by_cases htimer : s.reconnectTimer = true
    · rw [if_pos htimer]
      exact ⟨rfl, rfl, rfl⟩
    · rw [if_neg htimer]
      exact ⟨rfl, rfl, rfl⟩

theorem sameRequests_announce (s : BridgeClient ρ) (k : Nat) : SameRequests s (s.announce k) := by
  rw [announce]
  cases s.sockets[k]? with
  | none => exact ⟨rfl, rfl, rfl⟩
  | some x =>
    simp only
    by_cases hready : x.reconnect = true ∧ x.promise = .resolved
    · rw [if_pos hready]
      exact ⟨rfl, rfl, rfl⟩
    · rw [if_neg hready]
      exact ⟨rfl, rfl, rfl⟩

theorem SameRequests.trans {u : BridgeClient ρ} (h : SameRequests s t) (h' : SameRequests t u) :
    SameRequests s u := ⟨h'.1.trans h.1, h'.2.1.trans h.2.1, h'.2.2.trans h.2.2⟩

/-- A socket that is closed by the client. -/
theorem sameRequests_closing (s : BridgeClient ρ) : SameRequests s (match s.ws with
    | some k => s.closeSocket k
    | none => s) := by
  cases s.ws with
  | none => exact ⟨rfl, rfl, rfl⟩
  | some k => exact sameRequests_closeSocket s k

/-- What follows the rejections of a close event. -/
theorem sameRequests_closed (s : BridgeClient ρ) (wasConnected : Bool) :
    SameRequests s (
      let s := if wasConnected then s.dispatchEvent (.connectionState "disconnected") else s
      if s.intentionallyClosed then s else s.scheduleReconnect) := by
  have hfirst : SameRequests s
      (if wasConnected then s.dispatchEvent (.connectionState "disconnected") else s) := by
    cases wasConnected <;> exact ⟨rfl, rfl, rfl⟩
  refine hfirst.trans ?_
  generalize (if wasConnected then s.dispatchEvent (.connectionState "disconnected") else s) = s
  by_cases hclosed : s.intentionallyClosed = true
  · simp only [if_pos hclosed]
    exact ⟨rfl, rfl, rfl⟩
  · simp only [if_neg hclosed]
    exact sameRequests_scheduleReconnect s

/-- What a step does to the requests. -/
inductive Requested (s : BridgeClient ρ) : BridgeClient ρ → Prop where
  | same {t : BridgeClient ρ} (h : SameRequests s t) : Requested s t
  | rejectedAll {t u : BridgeClient ρ} (reason : String) (h : SameRequests s t)
      (h' : SameRequests (t.rejectAllPending reason) u) : Requested s u
  | answered {t : BridgeClient ρ} (reqId : String) (p : PendingRequest) (o : Settled ρ)
      (hp : s.pendingRequests.get? reqId = some p)
      (h : SameRequests { s with
        pendingRequests := s.pendingRequests.delete reqId
        promises := s.promises.settle p.promise o } t) : Requested s t
  | requested (method : String) (sending : Sending) : Requested s (s.request method sending)

theorem requested_timeout (s : BridgeClient ρ) (reqId : String) :
    Requested s (s.timeout reqId) := by
  rw [timeout]
  cases hp : s.pendingRequests.get? reqId with
  | none => exact .same ⟨rfl, rfl, rfl⟩
  | some p => exact .answered reqId p _ hp ⟨rfl, rfl, rfl⟩

theorem requested_handleMessage (s : BridgeClient ρ) (frame : Frame ρ) :
    Requested s (s.handleMessage frame) := by
  cases frame with
  | unparseable => exact .same ⟨rfl, rfl, rfl⟩
  | res response =>
    show Requested s (s.handleResponse response)
    rw [handleResponse]
    cases hp : s.pendingRequests.get? response.reqId with
    | none => exact .same ⟨rfl, rfl, rfl⟩
    | some p => exact .answered response.reqId p _ hp ⟨rfl, rfl, rfl⟩
  | evt event known => cases known <;> exact .same ⟨rfl, rfl, rfl⟩
  | other => exact .same ⟨rfl, rfl, rfl⟩

theorem requested_onerror (s : BridgeClient ρ) (k : Nat) (x : Socket) :
    Requested s (s.onerror k x) := by
  rw [onerror]
  by_cases hconnected : s.connected = true
  · rw [if_pos hconnected]
    exact .same ⟨rfl, rfl, rfl⟩
  · rw [if_neg hconnected]
    exact .same ⟨rfl, rfl, rfl⟩

theorem requested_onclose (s : BridgeClient ρ) (k : Nat) (x : Socket) :
    Requested s (s.onclose k x) :=
  .rejectedAll "WebSocket closed" (t := { s.setSocket k { x with phase := .closed } with
    connected := false }) ⟨rfl, rfl, rfl⟩ (sameRequests_closed _ s.connected)

theorem requested_deliver (s : BridgeClient ρ) (k : Nat) (e : Event ρ) :
    Requested s (s.deliver k e) := by
  rw [deliver]
  cases s.sockets[k]? with
  | none => exact .same ⟨rfl, rfl, rfl⟩
  | some x =>
    simp only
    by_cases hdelivers : delivers x e = true
    · rw [if_pos hdelivers]
      cases e with
      | socketOpens k => exact .same ⟨rfl, rfl, rfl⟩
      | socketErrs k => exact requested_onerror s k x
      | socketCloses k => exact requested_onclose s k x
      | message k frame => exact requested_handleMessage s frame
      | _ => exact .same ⟨rfl, rfl, rfl⟩
    · rw [if_neg hdelivers]
      exact .same ⟨rfl, rfl, rfl⟩

theorem requested_step (s : BridgeClient ρ) (e : Event ρ) : Requested s (s.step e) := by
  cases e with
  | connect constructs =>
    exact .same ((show SameRequests s { s with intentionallyClosed := false, reconnectAttempts := 0 }
      from ⟨rfl, rfl, rfl⟩).trans (sameRequests_connectInternal _ constructs false))
  | close =>
    have hfirst : SameRequests s { s with intentionallyClosed := true, reconnectTimer := false } :=
      ⟨rfl, rfl, rfl⟩
    have hclosing := hfirst.trans (sameRequests_closing { s with
      intentionallyClosed := true, reconnectTimer := false })
    exact .rejectedAll "Client closed" (hclosing.trans ⟨rfl, rfl, rfl⟩) ⟨rfl, rfl, rfl⟩
  | timerFires constructs => exact .same (sameRequests_timerFires s constructs)
  | socketOpens k => exact requested_deliver s k _
  | socketErrs k => exact requested_deliver s k _
  | socketCloses k => exact requested_deliver s k _
  | message k frame => exact requested_deliver s k _
  | announce k => exact .same (sameRequests_announce s k)
  | request method sending => exact .requested method sending
  | timeout reqId => exact requested_timeout s reqId

/-- A request that is not settled has an entry, and the entries are numbered. -/
structure Tracked (s : BridgeClient ρ) : Prop where
  entry : ∀ i : Nat, s.promises[i]? = some none →
    ∃ reqId p, s.pendingRequests.get? reqId = some p ∧ p.promise = i
  numbered : ∀ reqId p, s.pendingRequests.get? reqId = some p →
    ∃ m, m ≤ s.reqIdCounter ∧ reqId = "r" ++ toString m

theorem tracked_start : Tracked (start : BridgeClient ρ) where
  entry _ h := nomatch h
  numbered _ _ h := nomatch h

section

variable (h : Tracked s)
include h

theorem Tracked.same (hsame : SameRequests s t) : Tracked t := by
  obtain ⟨hpromises, hpending, hcounter⟩ := hsame
  refine ⟨fun i hi => ?_, fun reqId p hp => ?_⟩
  · rw [hpromises] at hi
    rw [hpending]
    exact h.entry i hi
  · rw [hpending] at hp
    rw [hcounter]
    exact h.numbered reqId p hp

theorem Tracked.rejectAllPending (reason : String) :
    Tracked (s.rejectAllPending reason) := by
  refine ⟨fun i hi => ?_, fun reqId p hp => (nomatch hp)⟩
  obtain ⟨hnone, hold⟩ := Promises.settleAll_pending hi
  obtain ⟨reqId, p, hp, hpi⟩ := h.entry i hold
  exact absurd hpi (hnone p (mem_values_iff.2 ⟨reqId, hp⟩))

theorem Tracked.answered {reqId : String} {p : PendingRequest}
    (hp : s.pendingRequests.get? reqId = some p) (o : Settled ρ) :
    Tracked { s with
      pendingRequests := s.pendingRequests.delete reqId
      promises := s.promises.settle p.promise o } := by
  refine ⟨fun i hi => ?_, fun reqId' q hq => ?_⟩
  · obtain ⟨hne, hold⟩ := Promises.settle_pending hi
    obtain ⟨reqId', q, hq, hqi⟩ := h.entry i hold
    have hreq : reqId' ≠ reqId := fun hreq => by
      rw [hreq, hp] at hq
      exact hne (hqi.symm.trans (congrArg PendingRequest.promise (some_inj.1 hq)).symm)
    exact ⟨reqId', q, (get?_delete_of_ne _ hreq).trans hq, hqi⟩
  · have hq' : (s.pendingRequests.delete reqId).get? reqId' = some q := hq
    rw [get?_delete] at hq'
    by_cases hreq : reqId' = reqId
    · rw [if_pos hreq] at hq'
      cases hq'
    · rw [if_neg hreq] at hq'
      exact h.numbered reqId' q hq'

/-- The number of a request is new. -/
theorem Tracked.fresh :
    s.pendingRequests.get? ("r" ++ toString (s.reqIdCounter + 1)) = none := by
  cases hp : s.pendingRequests.get? ("r" ++ toString (s.reqIdCounter + 1)) with
  | none => rfl
  | some p =>
    obtain ⟨m, hm, hreq⟩ := h.numbered _ p hp
    have hmn : s.reqIdCounter + 1 = m := Inbox.toString_injective ((String.append_right_inj _).1 hreq)
    omega

/-- An entry is added for the request that is made. -/
theorem Tracked.asked (method : String) (p : Option (Settled ρ)) :
    Tracked { s with
      reqIdCounter := s.reqIdCounter + 1
      pendingRequests := s.pendingRequests.set ("r" ++ toString (s.reqIdCounter + 1))
        ⟨s.promises.length, method⟩
      promises := s.promises ++ [p] } := by
  refine ⟨fun i hi => ?_, fun reqId q hq => ?_⟩
  · rcases getElem_append hi with ⟨hnew, _⟩ | ⟨_, hold⟩
    · exact ⟨_, _, get?_set_self _ _ _, hnew.symm⟩
    · obtain ⟨reqId, q, hq, hqi⟩ := h.entry i hold
      have hreq : reqId ≠ "r" ++ toString (s.reqIdCounter + 1) := fun hreq => by
        rw [hreq, h.fresh] at hq
        cases hq
      exact ⟨reqId, q, (get?_set_of_ne _ _ hreq).trans hq, hqi⟩
  · have hq' : (s.pendingRequests.set ("r" ++ toString (s.reqIdCounter + 1))
      ⟨s.promises.length, method⟩).get? reqId = some q := hq
    rw [get?_set] at hq'
    by_cases hreq : reqId = "r" ++ toString (s.reqIdCounter + 1)
    · exact ⟨s.reqIdCounter + 1, Nat.le_refl _, hreq⟩
    · rw [if_neg hreq] at hq'
      obtain ⟨m, hm, hmeq⟩ := h.numbered reqId q hq'
      exact ⟨m, Nat.le_succ_of_le hm, hmeq⟩

theorem Tracked.request (method : String) (sending : Sending) :
    Tracked (s.request method sending) := by
  rw [BridgeClient.request]
  by_cases hdown : s.connected = false ∨ s.ws = none
  · rw [if_pos hdown]
    refine ⟨fun i hi => ?_, h.numbered⟩
    rcases getElem_append hi with ⟨_, hsome⟩ | ⟨_, hold⟩
    · cases hsome
    · exact h.entry i hold
  · rw [if_neg hdown]
    cases sending with
    | sent => exact h.asked method none
    | refused message => exact h.asked method _
    | unserializable message =>
      refine ⟨fun i hi => ?_, fun reqId p hp => ?_⟩
      · rcases getElem_append hi with ⟨_, hsome⟩ | ⟨_, hold⟩
        · cases hsome
        · exact h.entry i hold
      · obtain ⟨m, hm, hmeq⟩ := h.numbered reqId p hp
        exact ⟨m, Nat.le_succ_of_le hm, hmeq⟩

theorem Tracked.requested (hrequested : Requested s t) : Tracked t := by
  cases hrequested with
  | same hsame => exact h.same hsame
  | rejectedAll reason hsame hsame' => exact ((h.same hsame).rejectAllPending reason).same hsame'
  | answered reqId p o hp hsame => exact (h.answered hp o).same hsame
  | requested method sending => exact h.request method sending

theorem Tracked.step (e : Event ρ) : Tracked (s.step e) :=
  h.requested (requested_step s e)

/-- The timer of an entry settles its request. -/
theorem Tracked.settles : s.Settles := by
  intro i hi
  obtain ⟨reqId, p, hp, hpi⟩ := h.entry i hi
  refine ⟨reqId, .rejected none ("Request timeout for " ++ p.method), ?_⟩
  rw [timeout, hp]
  exact hpi ▸ Promises.settle_self (hpi ▸ hi)

end

theorem final_requested (h : Requested s t) {i : Nat} {o : Settled ρ}
    (hi : s.promises[i]? = some (some o)) : t.promises[i]? = some (some o) := by
  cases h with
  | same hsame => rw [hsame.1, hi]
  | rejectedAll reason hsame hsame' =>
    rw [hsame'.1]
    exact Promises.settleAll_final (by rw [hsame.1, hi])
  | answered reqId p o' hp hsame =>
    rw [hsame.1]
    exact Promises.settle_final hi
  | requested method sending =>
    rw [request]
    by_cases hdown : s.connected = false ∨ s.ws = none
    · rw [if_pos hdown]
      exact append_left hi
    · rw [if_neg hdown]
      cases sending <;> exact append_left hi

theorem final_step (s : BridgeClient ρ) (e : Event ρ) : s.Final e := fun _ _ hi =>
  final_requested (requested_step s e) hi

theorem tracked_after (es : List (Event ρ)) : Tracked (after es) :=
  invariant_all step (fun _ e h => h.step e) es start tracked_start

/-- **Every request is settled once**, whatever the sockets do: what is settled stays as it is, and
what is not is settled by its timer at the latest. -/
theorem run_settled (es : List (Event ρ)) :
    (after es).Settles ∧ Runs.Meets step Final start es :=
  ⟨(tracked_after es).settles, meets_of_forall step es start fun e _ s => final_step s e⟩

/-- No request waits. -/
def AllSettled (s : BridgeClient ρ) : Prop := none ∉ s.promises

theorem Tracked.allSettled {u : BridgeClient ρ} {reason : String} (h : Tracked s)
    (hsame : SameRequests s t) (hsame' : SameRequests (t.rejectAllPending reason) u) :
    u.AllSettled := by
  intro hmem
  obtain ⟨i, hi⟩ := List.mem_iff_getElem?.1 hmem
  rw [hsame'.1] at hi
  obtain ⟨hnone, hold⟩ := Promises.settleAll_pending hi
  obtain ⟨reqId, p, hp, hpi⟩ := (h.same hsame).entry i hold
  exact hnone p (mem_values_iff.2 ⟨reqId, hp⟩) hpi

/-- **No request outlives its connection.** After every run, a `close` leaves no request waiting, and
neither does the close event of a socket, be it the current one or not. -/
theorem run_allSettled (es : List (Event ρ)) :
    ((after es).step .close).AllSettled ∧
      ∀ (k : Nat) (x : Socket), (after es).sockets[k]? = some x → x.phase ≠ .closed →
        ((after es).step (.socketCloses k)).AllSettled := by
  have htracked := tracked_after es
  generalize after es = s at htracked ⊢
  constructor
  · have hclosing := sameRequests_closing { s with
      intentionallyClosed := true, reconnectTimer := false }
    have hfirst : SameRequests s { s with intentionallyClosed := true, reconnectTimer := false } :=
      ⟨rfl, rfl, rfl⟩
    exact htracked.allSettled ((hfirst.trans hclosing).trans ⟨rfl, rfl, rfl⟩) ⟨rfl, rfl, rfl⟩
  · -- a socket's handler is not taken off it, so it runs for a superseded socket as well
    intro k x hx hopen
    have hstep : s.step (.socketCloses k) = s.onclose k x := by
      show s.deliver k (.socketCloses k) = _
      rw [deliver, hx]
      exact if_pos (decide_eq_true hopen)
    rw [hstep]
    exact htracked.allSettled (t := { s.setSocket k { x with phase := .closed } with
      connected := false }) ⟨rfl, rfl, rfl⟩ (sameRequests_closed _ s.connected)

/-! ## The fields follow the socket -/

/-- Every other socket than the current one has closed, and the state is that of the current one. -/
structure Following (s : BridgeClient ρ) : Prop where
  prior : ∀ (k : Nat) (x : Socket), s.sockets[k]? = some x → x.phase ≠ .closed → s.ws = some k
  follows : s.StateFollows

theorem following_start : Following (start : BridgeClient ρ) where
  prior _ _ h := nomatch h
  follows := ⟨fun h => absurd h false_ne_true, fun ⟨_, _, h, _⟩ => nomatch h⟩

/-- Nothing was done to the sockets. -/
def SameSockets (s t : BridgeClient ρ) : Prop :=
  t.ws = s.ws ∧ t.connected = s.connected ∧ t.sockets = s.sockets

theorem Following.same (h : Following s) (hsame : SameSockets s t) : Following t := by
  obtain ⟨hws, hconnected, hsockets⟩ := hsame
  refine ⟨fun k x hx => ?_, ?_⟩
  · rw [hsockets] at hx
    rw [hws]
    exact h.prior k x hx
  · have hfollows := h.follows
    rw [StateFollows] at hfollows ⊢
    rw [hws, hconnected, hsockets]
    exact hfollows

theorem SameSockets.trans {u : BridgeClient ρ} (h : SameSockets s t) (h' : SameSockets t u) :
    SameSockets s u := ⟨h'.1.trans h.1, h'.2.1.trans h.2.1, h'.2.2.trans h.2.2⟩

theorem Following.oneLive (h : Following s) : s.OneLive := by
  rintro j k ⟨x, hx, hlive⟩ ⟨y, hy, hlive'⟩
  have hopen : ∀ z : Socket, z.phase = .connecting ∨ z.phase = .opened → z.phase ≠ .closed := by
    rintro z (hz | hz) <;> rw [hz] <;> decide
  have hj := h.prior j x hx (hopen x hlive)
  have hk := h.prior k y hy (hopen y hlive')
  exact some_inj.1 (hj.symm.trans hk)

theorem closed_of_allClosed (h : s.allClosed = true) (hx : s.sockets[k]? = some x) :
    x.phase = .closed := by
  rw [allClosed, List.all_eq_true] at h
  exact of_decide_eq_true (h x (List.mem_of_getElem? hx))

section

variable (h : Following s)
include h

/-- A new socket is the current one, and nothing is left of the others. -/
theorem Following.connectInternal {constructs : Bool}
    (hclosed : constructs = true → s.allClosed = true) (reconnect : Bool) :
    Following (s.connectInternal constructs reconnect) := by
  cases constructs with
  | false => exact h
  | true =>
    have hnone : s.connected = false := by
      refine not_eq_true _ |>.mp fun hconnected => ?_
      obtain ⟨k, x, _, hx, hopened⟩ := h.follows.1 hconnected
      rw [closed_of_allClosed (hclosed rfl) hx] at hopened
      cases hopened
    refine ⟨fun k x hx hphase => ?_, fun hconnected => ?_, ?_⟩
    · rcases getElem_append hx with ⟨hk, _⟩ | ⟨_, hold⟩
      · exact congrArg some hk.symm
      · exact absurd (closed_of_allClosed (hclosed rfl) hold) hphase
    · have hconnected' : s.connected = true := hconnected
      rw [hnone] at hconnected'
      exact absurd hconnected' false_ne_true
    · rintro ⟨k, x, hk, hx, hopened⟩
      have hlen : s.sockets.length = k := some_inj.1 hk
      rcases getElem_append hx with ⟨_, hnew⟩ | ⟨hlt, _⟩
      · rw [hnew] at hopened
        cases hopened
      · omega

/-- The current socket goes from one phase to another, and the client with it. -/
theorem Following.setSocket (hx : s.sockets[k]? = some x) (hk : s.ws = some k)
    (connected : Bool) (hconnected : connected = true ↔ y.phase = .opened) :
    Following { s.setSocket k y with connected := connected } := by
  refine ⟨fun j z hz hphase => ?_, fun hc => ?_, ?_⟩
  · rcases getElem_set hz with ⟨hjk, _⟩ | ⟨_, hold⟩
    · exact hjk ▸ hk
    · exact h.prior j z hold hphase
  · exact ⟨k, y, hk, set_self hx, hconnected.1 hc⟩
  · rintro ⟨j, z, hj, hz, hopened⟩
    have hjk : j = k := some_inj.1 (hj.symm.trans hk)
    subst hjk
    have hzy : z = y := some_inj.1 (hz.symm.trans (set_self hx))
    exact hconnected.2 (hzy ▸ hopened)

/-- A socket that keeps its phase. -/
theorem Following.samePhase (hx : s.sockets[k]? = some x)
    (hphase : y.phase = x.phase) : Following (s.setSocket k y) := by
  refine ⟨fun j z hz hne => ?_, fun hc => ?_, ?_⟩
  · rcases getElem_set hz with ⟨hjk, hzy⟩ | ⟨_, hold⟩
    · exact hjk ▸ h.prior k x hx (by rw [← hphase, ← hzy]; exact hne)
    · exact h.prior j z hold hne
  · obtain ⟨j, z, hj, hz, hopened⟩ := h.follows.1 hc
    by_cases hjk : j = k
    · subst hjk
      refine ⟨j, y, hj, set_self hx, ?_⟩
      rw [hphase, some_inj.1 (hx.symm.trans hz)]
      exact hopened
    · exact ⟨j, z, hj, set_other hjk hz, hopened⟩
  · rintro ⟨j, z, hj, hz, hopened⟩
    refine h.follows.2 ?_
    rcases getElem_set hz with ⟨hjk, hzy⟩ | ⟨_, hold⟩
    · exact ⟨k, x, hjk ▸ hj, hx, by rw [← hphase, ← hzy]; exact hopened⟩
    · exact ⟨j, z, hj, hold, hopened⟩

end

theorem sameSockets_scheduleReconnect (s : BridgeClient ρ) : SameSockets s s.scheduleReconnect := by
  rw [scheduleReconnect]
  by_cases hclosed : s.intentionallyClosed = true
  · rw [if_pos hclosed]
    exact ⟨rfl, rfl, rfl⟩
  · rw [if_neg hclosed]
    by_cases htimer : s.reconnectTimer = true
    · rw [if_pos htimer]
      exact ⟨rfl, rfl, rfl⟩
    · rw [if_neg htimer]
      exact ⟨rfl, rfl, rfl⟩

theorem sameSockets_closed (s : BridgeClient ρ) (wasConnected : Bool) :
    SameSockets s (
      let s := if wasConnected then s.dispatchEvent (.connectionState "disconnected") else s
      if s.intentionallyClosed then s else s.scheduleReconnect) := by
  have hfirst : SameSockets s
      (if wasConnected then s.dispatchEvent (.connectionState "disconnected") else s) := by
    cases wasConnected <;> exact ⟨rfl, rfl, rfl⟩
  refine hfirst.trans ?_
  generalize (if wasConnected then s.dispatchEvent (.connectionState "disconnected") else s) = s
  by_cases hclosed : s.intentionallyClosed = true
  · simp only [if_pos hclosed]
    exact ⟨rfl, rfl, rfl⟩
  · simp only [if_neg hclosed]
    exact sameSockets_scheduleReconnect s

theorem sameSockets_handleMessage (s : BridgeClient ρ) (frame : Frame ρ) :
    SameSockets s (s.handleMessage frame) := by
  cases frame with
  | unparseable => exact ⟨rfl, rfl, rfl⟩
  | res response =>
    show SameSockets s (s.handleResponse response)
    rw [handleResponse]
    cases s.pendingRequests.get? response.reqId <;> exact ⟨rfl, rfl, rfl⟩
  | evt event known => cases known <;> exact ⟨rfl, rfl, rfl⟩
  | other => exact ⟨rfl, rfl, rfl⟩

theorem sameSockets_request (s : BridgeClient ρ) (method : String) (sending : Sending) :
    SameSockets s (s.request method sending) := by
  rw [request]
  by_cases hdown : s.connected = false ∨ s.ws = none
  · rw [if_pos hdown]
    exact ⟨rfl, rfl, rfl⟩
  · rw [if_neg hdown]
    cases sending <;> exact ⟨rfl, rfl, rfl⟩

theorem sameSockets_timeout (s : BridgeClient ρ) (reqId : String) :
    SameSockets s (s.timeout reqId) := by
  rw [timeout]
  cases s.pendingRequests.get? reqId <;> exact ⟨rfl, rfl, rfl⟩

section

variable (h : Following s)
include h

/-- A socket that delivers an event is the current one. -/
theorem Following.current (hx : s.sockets[k]? = some x)
    (hdelivers : delivers x e = true) : s.ws = some k := by
  refine h.prior k x hx fun hclosed => ?_
  cases e <;> simp [delivers, hclosed] at hdelivers

theorem Following.deliver (e : Event ρ) (hk : e.socket = some k) :
    Following (s.deliver k e) := by
  rw [BridgeClient.deliver]
  cases hx : s.sockets[k]? with
  | none => exact h
  | some x =>
    simp only
    by_cases hdelivers : delivers x e = true
    · rw [if_pos hdelivers]
      have hws := h.current hx hdelivers
      cases e with
      | socketOpens j =>
        obtain rfl : j = k := some_inj.1 hk
        have hopened : Following { s.setSocket j { x.resolve with phase := .opened } with
            connected := true } := h.setSocket hx hws true ⟨fun _ => rfl, fun _ => rfl⟩
        exact hopened.same ⟨rfl, rfl, rfl⟩
      | socketErrs j =>
        obtain rfl : j = k := some_inj.1 hk
        show Following (s.onerror j x)
        rw [onerror]
        by_cases hconnected : s.connected = true
        · rw [if_pos hconnected]
          exact h
        · rw [if_neg hconnected]
          exact h.samePhase hx x.phase_reject
      | socketCloses j =>
        obtain rfl : j = k := some_inj.1 hk
        have hclosed : Following { s.setSocket j { x with phase := .closed } with
            connected := false } :=
          h.setSocket hx hws false ⟨fun hf => absurd hf false_ne_true, fun hf => nomatch hf⟩
        have hrejected : Following ({ s.setSocket j { x with phase := .closed } with
            connected := false }.rejectAllPending "WebSocket closed") :=
          hclosed.same ⟨rfl, rfl, rfl⟩
        exact hrejected.same (sameSockets_closed _ s.connected)
      | message j frame => exact h.same (sameSockets_handleMessage s frame)
      | _ => exact h
    · rw [if_neg hdelivers]
      exact h

theorem Following.close : Following s.close := by
  rw [BridgeClient.close]
  have hshut : Following { s with intentionallyClosed := true, reconnectTimer := false } :=
    h.same ⟨rfl, rfl, rfl⟩
  generalize { s with intentionallyClosed := true, reconnectTimer := false } = s at hshut
  cases hws : s.ws with
  | none =>
    simp only
    have hdown : s.connected = false := by
      refine not_eq_true _ |>.mp fun hconnected => ?_
      obtain ⟨k, x, hk, _⟩ := hshut.follows.1 hconnected
      cases hws.symm.trans hk
    exact hshut.same ⟨rfl, hdown.symm, rfl⟩
  | some k =>
    simp only
    rw [closeSocket]
    cases hx : s.sockets[k]? with
    | none =>
      simp only
      have hdown : s.connected = false := by
        refine not_eq_true _ |>.mp fun hconnected => ?_
        obtain ⟨j, x, hj, hxj, _⟩ := hshut.follows.1 hconnected
        rw [← some_inj.1 (hws.symm.trans hj), hx] at hxj
        cases hxj
      exact hshut.same ⟨rfl, hdown.symm, rfl⟩
    | some x =>
      simp only
      have hclosing : Following ({ s.setSocket k { x with phase := .closing } with
          connected := false }.rejectAllPending "Client closed") :=
        (hshut.setSocket (y := { x with phase := .closing }) hx hws false
          ⟨fun hf => absurd hf false_ne_true, fun hf => nomatch hf⟩).same ⟨rfl, rfl, rfl⟩
      have hdown : x.phase ≠ .opened → Following ({ s with
          connected := false }.rejectAllPending "Client closed") := fun hne => by
        have hconnected : s.connected = false := by
          refine not_eq_true _ |>.mp fun hconnected => ?_
          obtain ⟨j, z, hj, hz, hopened⟩ := hshut.follows.1 hconnected
          rw [← some_inj.1 (hws.symm.trans hj), hx] at hz
          exact hne (some_inj.1 hz ▸ hopened)
        exact hshut.same ⟨rfl, hconnected.symm, rfl⟩
      cases hphase : x.phase with
      | connecting => exact hclosing
      | opened => exact hclosing
      | closing => exact hdown (by rw [hphase]; decide)
      | closed => exact hdown (by rw [hphase]; decide)

theorem Following.step (hok : s.Orderly e) : Following (s.step e) := by
  cases e with
  | connect constructs =>
    have hopened : Following { s with intentionallyClosed := false, reconnectAttempts := 0 } :=
      h.same ⟨rfl, rfl, rfl⟩
    exact hopened.connectInternal hok false
  | close => exact h.close
  | timerFires constructs =>
    show Following (s.timerFires constructs)
    rw [timerFires]
    by_cases htimer : s.reconnectTimer = true
    · rw [if_pos htimer]
      have hfired : Following { s with reconnectTimer := false } := h.same ⟨rfl, rfl, rfl⟩
      by_cases hclosed : s.intentionallyClosed = true
      · simp only [if_pos hclosed]
        exact hfired
      · simp only [if_neg hclosed]
        exact hfired.connectInternal
          (fun hconstructs => hok ⟨htimer, not_eq_true _ |>.mp hclosed, hconstructs⟩) true
    · rw [if_neg htimer]
      exact h
  | socketOpens k => exact h.deliver _ rfl
  | socketErrs k => exact h.deliver _ rfl
  | socketCloses k => exact h.deliver _ rfl
  | message k frame => exact h.deliver _ rfl
  | announce k =>
    show Following (s.announce k)
    rw [announce]
    cases hx : s.sockets[k]? with
    | none => exact h
    | some x =>
      simp only
      by_cases hready : x.reconnect = true ∧ x.promise = .resolved
      · rw [if_pos hready]
        have hhandled : Following (s.setSocket k { x with promise := .handled }) :=
          h.samePhase hx rfl
        exact hhandled.same ⟨rfl, rfl, rfl⟩
      · rw [if_neg hready]
        exact h
  | request method sending => exact h.same (sameSockets_request s method sending)
  | timeout reqId => exact h.same (sameSockets_timeout s reqId)

/-- Any other socket has nothing to say. -/
theorem Following.unmoved (e : Event ρ) : s.Unmoved e := by
  intro k hk hws
  have hsilent : s.deliver k e = s := by
    rw [BridgeClient.deliver]
    cases hx : s.sockets[k]? with
    | none => rfl
    | some x =>
      simp only
      by_cases hdelivers : delivers x e = true
      · exact absurd (h.current hx hdelivers) hws
      · rw [if_neg hdelivers]
  have hstep : s.step e = s := by
    cases e with
    | socketOpens j => exact some_inj.1 hk ▸ hsilent
    | socketErrs j => exact some_inj.1 hk ▸ hsilent
    | socketCloses j => exact some_inj.1 hk ▸ hsilent
    | message j frame => exact some_inj.1 hk ▸ hsilent
    | _ => cases hk
  rw [hstep]
  refine ⟨rfl, rfl, fun i code message hi hsettled => ?_⟩
  rw [hi] at hsettled
  cases hsettled

end

theorem run_following (es : List (Event ρ)) (h : Runs.Meets step Orderly start es) :
    Following (after es) :=
  invariant step (fun _ _ hs he => hs.step he) es start following_start h

/-- **The fields follow the socket.** Where a socket is made only after every socket before has
delivered its close event, there is at most one live socket, the client is connected exactly when
its socket is open, every request is settled once, and no other socket changes anything. -/
theorem run_followsSocket (es : List (Event ρ)) (h : Runs.Meets step Orderly start es) :
    (∀ n, (after (es.take n)).OneLive ∧ (after (es.take n)).StateFollows ∧
      (after (es.take n)).Settles) ∧
    Runs.Meets step Final start es ∧ Runs.Meets step Unmoved start es := by
  refine ⟨fun n => ?_, (run_settled es).2, ?_⟩
  · have hfollowing : Following (after (es.take n)) :=
      throughout step (P := Following) (fun es h => run_following es h) es h n
    exact ⟨hfollowing.oneLive, hfollowing.follows, (run_settled _).1⟩
  · exact meets_of_invariant step (fun _ _ hs he => hs.step he) (fun _ e hs _ => hs.unmoved e)
      es start following_start h

/-- A connection, a request, a loss, and a connection that the timer makes. -/
def reconnectedRun : List (Event Unit) :=
  [.connect true, .socketOpens 0, .request "thread.list" .sent, .socketCloses 0, .timerFires true,
    .socketOpens 1, .announce 1, .request "thread.list" .sent,
    .message 1 (.res ⟨"r2", true, none, none, .ok ()⟩)]

theorem run_followsSocket_reconnected : (after reconnectedRun).StateFollows :=
  ((run_followsSocket reconnectedRun (by decide)).1 99).2.1

/-- The client is closed and connects again; the old socket's close event comes when the new socket
is open, and the client takes itself for disconnected. -/
theorem late_close : ¬ ∀ es : List (Event Unit), (after es).StateFollows := by
  intro h
  have hstate := h [.connect true, .socketOpens 0, .close, .connect true, .socketOpens 1,
    .socketCloses 0]
  exact absurd (hstate.2 ⟨1, ⟨.opened, .resolved, false⟩, rfl, rfl, rfl⟩) false_ne_true

end BridgeClient

end RezChat.Transport
