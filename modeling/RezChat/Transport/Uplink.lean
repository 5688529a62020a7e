/-
The bridge of the server side (`transport/ChatWebsocketUplink.js`, `ChatBridge.js`,
`BridgeClient.js`).

The uplink outlives the chat server behind it: a logout detaches one, a login attaches the next, and
the sockets of the browser stay. A client sends `session.hello` with the bridge token to the chat
server that is attached, and its `authenticated` flag is set. From then on its requests reach the
attached chat server, and it gets that server's events.

Nothing sets the flag back. A client that said hello to one chat server is answered by the next one,
and gets its events. Where a chat server is attached only while no client is left that is
authenticated from before, a client is served by a chat server only if it presented its token to it,
and this is exactly when (`run_staysBound_iff`).

The timer that closes a socket without a hello, the bodies of requests, results and events, and
`close` are not modelled.
-/
import RezChat.Inbox.Frame
import RezChat.Lib.Runs
import RezChat.Lib.Table

set_option autoImplicit false

namespace RezChat.Transport.Uplink

open Inbox (trim trimmed)
open List Bool Table Option

/-! ## Clients -/

/-- The socket of a client. After an error it is out of the map of clients, and not closed yet. -/
inductive Connection where
  | listed
  | unlisted
  | closed
  deriving DecidableEq

/-- A `BridgeClient`. -/
structure Client where
  connection : Connection
  authenticated : Bool
  accountId : Option String
  deviceId : Option String
  deriving DecidableEq

namespace Client

def connected : Client := ⟨.listed, false, none, none⟩

def authenticate (c : Client) (accountId deviceId : Option String) : Except String Client :=
  if trimmed accountId = "" then
    .error "BridgeClient.authenticate requires non-empty accountId"
  else if trimmed deviceId = "" then
    .error "BridgeClient.authenticate requires non-empty deviceId"
  else
    .ok { c with
      authenticated := true
      accountId := some (trimmed accountId)
      deviceId := some (trimmed deviceId) }

end Client

/-! ## Frames -/

/-- A parsed frame: `bridgeToken` where it is a string, and what `rehydrateParams` makes of the
parameters, or the error it throws. -/
structure Frame where
  isRequest : Bool
  ns : String
  reqId : String
  method : String
  bridgeToken : Option String
  params : Except String (Option String × Option String)

/-- `BRIDGE_ERROR_CODES`. -/
inductive ErrorCode where
  | notAuthenticated
  | notReady
  | internal
  | handlerError
  deriving DecidableEq

/-- A `BridgeResponse`, without the data. -/
structure Response where
  ns : String
  reqId : String
  method : String
  ok : Bool
  error : Option (ErrorCode × String)
  deriving DecidableEq

namespace Frame

def isHello (frame : Frame) : Bool := decide (frame.method = "session.hello")

def errorResponse (frame : Frame) (code : ErrorCode) (message : String) : Response :=
  ⟨frame.ns, frame.reqId, frame.method, false, some (code, message)⟩

/-- The response to a call that `result` came of. -/
def response (frame : Frame) : Except String Unit → Response
  | .ok _ => ⟨frame.ns, frame.reqId, frame.method, true, none⟩
  | .error message => frame.errorResponse .handlerError message

/-- The token of a hello is the one of the shell; without one any hello will do. -/
def tokenValid (token : String) (frame : Frame) : Bool :=
  decide (token = "") || decide (frame.bridgeToken.getD "" = token)

end Frame

/-- What the clients get: of the uplink itself, or of the chat server `server`. -/
inductive Sent where
  | rawError (client : Nat) (message : String)
  | refused (client : Nat) (response : Response)
  | answered (client server : Nat) (response : Response)
  | event (client server : Nat) (name : String)
  deriving DecidableEq

/-- The client, and the chat server if what was sent is of one. -/
def Sent.source : Sent → Option (Nat × Nat)
  | .rawError _ _ => none
  | .refused _ _ => none
  | .answered client server _ => some (client, server)
  | .event client server _ => some (client, server)

/-! ## Chat servers -/

/-- A chat server, by its identity; `bridge` if it has one with a spec, `handles` if that has
`handle`, and `emitter` if there is a bus or an `on`. -/
structure ChatServer where
  id : Nat
  bridge : Bool
  handles : Bool
  emitter : Bool
  deriving DecidableEq

/-- The keys of `CHAT_BRIDGE_METHOD_BINDINGS`. -/
def methodBindings : List String :=
  ["session.hello", "threads.list", "thread.get", "thread.messages.list", "thread.read",
    "thread.channel.read", "thread.state.set", "thread.delete", "thread.createDirect",
    "message.send", "message.edit", "message.tombstone", "message.deleteLocal",
    "message.reaction.add", "message.reaction.remove", "contacts.list", "contacts.rename",
    "contacts.block", "contacts.unblock", "contacts.delete", "contacts.requestConnect",
    "contacts.approveConnectRequest", "contacts.denyConnectRequest",
    "contacts.listConnectRequests", "invite.create", "invite.accept", "peer-links.list",
    "peer-link.get", "node.status", "mesh.refresh", "mesh.status", "diagnostics.snapshot",
    "keystore.put", "keystore.fetch", "group.create", "groups.list", "group.members.list",
    "group.leave", "group.rename", "group.setAvatar", "group.kick", "group.setRole",
    "channels.list", "channels.create", "channels.delete", "channels.syncAll", "file.send",
    "file.get", "profile.broadcast", "profile.getOwn", "links.unfurl", "deviceLink.start",
    "deviceLink.status", "deviceLink.approve", "deviceLink.cancel"]

/-- The keys of `CHAT_BRIDGE_SPEC.events`. -/
def specEvents : List String :=
  ["message.deposited", "message.status", "message.updated", "message.removed",
    "thread.index.updated", "thread.updated", "thread.removed", "peer-link.updated",
    "contact.updated", "contact.removed", "connection.state", "inbox.caughtup",
    "mailbox.deposit.quarantined", "mesh.updated", "group.updated", "group.removed",
    "group.members.updated", "channel.upserted", "channel.removed", "connectRequest.updated",
    "deviceLink.updated", "node.capabilities"]

/-- `ChatBridge.handle`, up to the call of the bus. -/
def handle (c : Client) (method : String) (params : Option String × Option String) :
    Except String Client :=
  if trim method ∈ methodBindings then
    if trim method = "session.hello" then c.authenticate params.1 params.2 else .ok c
  else .error ("ChatBridge: unknown method '" ++ method ++ "'")

/-! ## The uplink -/

/-- A call of `ChatBridge.handle` that is awaited; `thrown` if it fails before it reaches the
bus. -/
structure Call where
  client : Nat
  server : Nat
  frame : Frame
  thrown : Option String

/-- The fields of the uplink, every client it ever had, and the calls with whether they are
settled. The subscriptions are by the chat server that they are at. -/
structure State where
  chatServer : Option ChatServer
  serverEventUnsubs : List Nat
  bridgeReady : Bool
  clients : List Client
  calls : List (Call × Bool)

namespace State

def subscriptions (server : ChatServer) : List Nat :=
  if server.bridge && server.emitter then [server.id] else []

/-- The uplink once started, with the chat server that it was constructed with. -/
def started (server : Option ChatServer) : State :=
  ⟨server, (server.map subscriptions).getD [], false, [], []⟩

def detachChatServer (u : State) : State :=
  { u with chatServer := none, serverEventUnsubs := [], bridgeReady := false }

/-- The chat server of this identity is attached. -/
def attached (u : State) (server : Nat) : Bool :=
  u.chatServer.any fun s => decide (s.id = server)

/-- `attachChatServer`. A chat server without a bridge or an emitter is refused after the one before
was detached. -/
def attachChatServer (u : State) (server : ChatServer) : State :=
  if u.attached server.id then u
  else
    let detached := if u.chatServer.isSome then u.detachChatServer else u
    if server.bridge && server.emitter then
      { detached with
        chatServer := some server
        serverEventUnsubs := detached.serverEventUnsubs ++ [server.id]
        bridgeReady := true }
    else detached

/-- `#handleMessage`, up to its await, for a frame of the client `i`. -/
def handleFrame (u : State) (token : String) (i : Nat) (c : Client) (frame : Frame) :
    State × List Sent :=
  if frame.isRequest = false then (u, [])
  else if frame.isHello = false ∧ c.authenticated = false then
    (u, [.refused i (frame.errorResponse .notAuthenticated
      "Not authenticated — send session.hello first")])
  else if frame.isHello = false ∧ u.bridgeReady = false then
    (u, [.refused i (frame.errorResponse .notReady "Server not ready")])
  else if frame.isHello = true ∧ frame.tokenValid token = false then
    (u, [.refused i (frame.errorResponse .notAuthenticated "Invalid bridge token")])
  else
    match u.chatServer with
    | none => (u, [.refused i (frame.errorResponse .internal "No bridge handler")])
    | some server =>
      if server.bridge && server.handles then
        match frame.params with
        | .error message => (u, [.refused i (frame.errorResponse .handlerError message)])
        | .ok params =>
          match handle c frame.method params with
          | .error message =>
            ({ u with calls := u.calls ++ [(⟨i, server.id, frame, some message⟩, false)] }, [])
          | .ok c' =>
            let calls := u.calls ++ [(⟨i, server.id, frame, none⟩, false)]
            ({ u with clients := u.clients.set i c', calls := calls }, [])
      else (u, [.refused i (frame.errorResponse .internal "No bridge handler")])

/-- A message of the client `i`: what `parseFrame` makes of it, or the error it throws. -/
def handleMessage (u : State) (token : String) (i : Nat) (message : Except String Frame) :
    State × List Sent :=
  match u.clients[i]? with
  | some c =>
    if c.connection = .closed then (u, [])
    else
      match message with
      | .error text => (u, [.rawError i text])
      | .ok frame => u.handleFrame token i c frame
  | none => (u, [])

/-- An awaited call is over: its response goes out if the socket is still there. -/
def settle (u : State) (k : Nat) (result : Except String Unit) : State × List Sent :=
  match u.calls[k]? with
  | some (call, false) =>
    let u' := { u with calls := u.calls.set k (call, true) }
    match u.clients[call.client]? with
    | some c =>
      if c.connection = .closed then (u', [])
      else
        let outcome := call.thrown.elim result .error
        (u', [.answered call.client call.server (call.frame.response outcome)])
    | none => (u', [])
  | _ => (u, [])

/-- The clients that `#broadcastEvent` sends to. -/
def audience (u : State) : List Nat :=
  (range u.clients.length).filter fun i =>
    (u.clients[i]?).any fun c => decide (c.connection = .listed) && c.authenticated

/-- The chat server `server` emits an event: each of the subscriptions at it broadcasts. -/
def emitted (u : State) (server : Nat) (name : String) : List Sent :=
  if name ∈ specEvents then
    (u.serverEventUnsubs.filter fun k => decide (k = server)).flatMap fun k =>
      u.audience.map fun i => .event i k name
  else []

/-- The socket of the client `i` fails, or closes. -/
def setConnection (u : State) (i : Nat) (connection : Connection) : State :=
  match u.clients[i]? with
  | some c =>
    if c.connection = .closed then u
    else { u with clients := u.clients.set i { c with connection := connection } }
  | none => u

end State

/-! ## Runs -/

inductive Event where
  | connect
  | message (i : Nat) (message : Except String Frame)
  | settle (k : Nat) (result : Except String Unit)
  | emit (server : Nat) (name : String)
  | error (i : Nat)
  | close (i : Nat)
  | attachChatServer (server : ChatServer)
  | detachChatServer
  | setReady (flag : Bool)

def turn (token : String) (u : State) : Event → State × List Sent
  | .connect => ({ u with clients := u.clients ++ [Client.connected] }, [])
  | .message i message => u.handleMessage token i message
  | .settle k result => u.settle k result
  | .emit server name => (u, u.emitted server name)
  | .error i => (u.setConnection i .unlisted, [])
  | .close i => (u.setConnection i .closed, [])
  | .attachChatServer server => (u.attachChatServer server, [])
  | .detachChatServer => (u.detachChatServer, [])
  | .setReady flag => ({ u with bridgeReady := flag }, [])

/-- A hello with a valid token, by the client and the chat server that is attached. -/
def presents (token : String) (u : State) : Event → List (Nat × Nat)
  | .message i (.ok frame) =>
    if frame.isRequest && frame.isHello && frame.tokenValid token then
      u.chatServer.toList.map fun server => (i, server.id)
    else []
  | _ => []

/-- The uplink, what was sent so far, and which tokens were presented. -/
structure World where
  uplink : State
  sent : List Sent
  presented : List (Nat × Nat)

namespace World

def step (token : String) (w : World) (e : Event) : World :=
  ⟨(turn token w.uplink e).1, w.sent ++ (turn token w.uplink e).2,
    w.presented ++ presents token w.uplink e⟩

def started (server : Option ChatServer) : World := ⟨State.started server, [], []⟩

def after (token : String) (server : Option ChatServer) (es : List Event) : World :=
  Runs.run (step token) (started server) es

/-- A client gets what is a chat server's only if it presented a valid token to it, and while a chat
server is attached, the clients that are authenticated are those that did. -/
structure Bound (w : World) : Prop where
  served : ∀ x ∈ w.sent, ∀ p ∈ x.source, p ∈ w.presented
  authenticated : ∀ (i : Nat) (c : Client) (server : Nat), w.uplink.clients[i]? = some c →
    c.connection ≠ .closed → c.authenticated = true → w.uplink.attached server = true →
      (i, server) ∈ w.presented

/-- When a chat server comes to be attached, no client is left that is authenticated and did not
present its token to this one. -/
def NoneLeft (w : World) : Event → Prop
  | .attachChatServer server =>
    w.uplink.attached server.id = false → server.bridge = true → server.emitter = true →
      ∀ i < w.uplink.clients.length, ∀ c ∈ w.uplink.clients[i]?, c.connection ≠ .closed →
        c.authenticated = true → (i, server.id) ∈ w.presented
  | _ => True

instance (w : World) : ∀ e, Decidable (w.NoneLeft e)
  | .attachChatServer server => inferInstanceAs (Decidable
      (w.uplink.attached server.id = false → server.bridge = true → server.emitter = true →
      ∀ i < w.uplink.clients.length, ∀ c ∈ w.uplink.clients[i]?, c.connection ≠ .closed →
        c.authenticated = true → (i, server.id) ∈ w.presented))
  | .connect => isTrue trivial
  | .message _ _ => isTrue trivial
  | .settle _ _ => isTrue trivial
  | .emit _ _ => isTrue trivial
  | .error _ => isTrue trivial
  | .close _ => isTrue trivial
  | .detachChatServer => isTrue trivial
  | .setReady _ => isTrue trivial

/-! ## What is kept -/

variable {token : String} {w : World}

/-- Subscriptions are at the chat server that is attached, and what is awaited is for one that
presented its token. -/
structure Inv (w : World) : Prop extends Bound w where
  subscribed : ∀ k ∈ w.uplink.serverEventUnsubs, w.uplink.attached k = true
  called : ∀ p ∈ w.uplink.calls, (p.1.client, p.1.server) ∈ w.presented

theorem inv_started (server : Option ChatServer) : Inv (started server) where
  served _ h := nomatch h
  authenticated _ _ _ h := nomatch h
  called _ h := nomatch h
  subscribed k hk := by
    cases server with
    | none => cases hk
    | some s =>
      have hk' : k ∈ State.subscriptions s := hk
      rw [State.subscriptions] at hk'
      by_cases hwired : (s.bridge && s.emitter) = true
      · rw [if_pos hwired, mem_singleton] at hk'
        rw [hk']
        exact decide_eq_true rfl
      · rw [if_neg hwired] at hk'
        cases hk'

variable {presented : List (Nat × Nat)}

section

variable (h : Inv w)
include h

/-- A step keeps the invariant if what it sends is for those who presented their tokens, and so are
the flags and the calls after it. -/
theorem Inv.next {u : State} {sent : List Sent}
    (hsent : ∀ x ∈ sent, ∀ p ∈ x.source, p ∈ w.presented ++ presented)
    (hauthenticated : ∀ (i : Nat) (c : Client) (server : Nat), u.clients[i]? = some c →
      c.connection ≠ .closed → c.authenticated = true → u.attached server = true →
        (i, server) ∈ w.presented ++ presented)
    (hsubscribed : ∀ k ∈ u.serverEventUnsubs, u.attached k = true)
    (hcalled : ∀ p ∈ u.calls, (p.1.client, p.1.server) ∈ w.presented ++ presented) :
    Inv ⟨u, w.sent ++ sent, w.presented ++ presented⟩ where
  served x hx p hp := by
    rcases mem_append.1 hx with hold | hnew
    · exact mem_append_left _ (h.served x hold p hp)
    · exact hsent x hnew p hp
  authenticated := hauthenticated
  subscribed := hsubscribed
  called := hcalled

/-- So does one that leaves flags, subscriptions and calls as they were. -/
theorem Inv.sends {sent : List Sent}
    (hsent : ∀ x ∈ sent, ∀ p ∈ x.source, p ∈ w.presented) :
    Inv ⟨w.uplink, w.sent ++ sent, w.presented ++ presented⟩ :=
  h.next (fun x hx p hp => mem_append_left _ (hsent x hx p hp))
    (fun i c k hi hopen hauth hk => mem_append_left _ (h.authenticated i c k hi hopen hauth hk))
    h.subscribed (fun p hp => mem_append_left _ (h.called p hp))

theorem Inv.connect : Inv (w.step token .connect) := by
  refine h.next (fun x hx => (nomatch hx)) (fun i c k hi hopen hauth hk => ?_) h.subscribed
    (fun p hp => mem_append_left _ (h.called p hp))
  rcases getElem_append hi with ⟨_, hnew⟩ | ⟨_, hold⟩
  · rw [hnew] at hauth
    cases hauth
  · exact mem_append_left _ (h.authenticated i c k hold hopen hauth hk)

theorem Inv.setConnection (i : Nat) (connection : Connection) :
    Inv ⟨w.uplink.setConnection i connection, w.sent ++ [], w.presented ++ []⟩ := by
  rw [State.setConnection]
  cases hi : w.uplink.clients[i]? with
  | none => exact h.sends fun x hx => (nomatch hx)
  | some c =>
    simp only
    by_cases hclosed : c.connection = .closed
    · rw [if_pos hclosed]
      exact h.sends fun x hx => (nomatch hx)
    · rw [if_neg hclosed]
      refine h.next (fun x hx => (nomatch hx)) (fun j d k hj hopen hauth hk => ?_) h.subscribed
        (fun p hp => mem_append_left _ (h.called p hp))
      rcases getElem_set hj with ⟨hji, hnew⟩ | ⟨_, hold⟩
      · rw [hnew] at hauth
        rw [hji]
        exact mem_append_left _ (h.authenticated i c k hi hclosed hauth hk)
      · exact mem_append_left _ (h.authenticated j d k hold hopen hauth hk)

theorem Inv.detachChatServer (token : String) :
    Inv (w.step token .detachChatServer) := by
  refine h.next (fun x hx => (nomatch hx)) (fun i c k hi hopen hauth hk => ?_)
    (fun k hk => (nomatch hk)) (fun p hp => mem_append_left _ (h.called p hp))
  -- no chat server is attached
  cases hk

/-- Who hears an event is authenticated with the chat server that it is of. -/
theorem Inv.emit (server : Nat) (name : String) :
    Inv (w.step token (.emit server name)) := by
  refine h.sends fun x hx p hp => ?_
  have hx' : x ∈ w.uplink.emitted server name := hx
  rw [State.emitted] at hx'
  by_cases hname : name ∈ specEvents
  · rw [if_pos hname] at hx'
    obtain ⟨k, hk, hmap⟩ := mem_flatMap.1 hx'
    obtain ⟨i, hi, hnew⟩ := mem_map.1 hmap
    subst hnew
    obtain rfl : (i, k) = p := some_inj.1 hp
    obtain ⟨_, haudience⟩ := mem_filter.1 hi
    obtain ⟨c, hc, hlisted⟩ := (any_eq_true _ _).1 haudience
    rw [and_eq_true, decide_eq_true_eq] at hlisted
    refine h.authenticated i c k hc (fun hclosed => ?_) hlisted.2
      (h.subscribed k (mem_of_mem_filter hk))
    rw [hclosed] at hlisted
    cases hlisted.1
  · rw [if_neg hname] at hx'
    cases hx'

theorem Inv.settle (k : Nat) (result : Except String Unit) :
    Inv (w.step token (.settle k result)) := by
  rw [step, turn, State.settle]
  cases hk : w.uplink.calls[k]? with
  | none => exact h.sends fun x hx => (nomatch hx)
  | some p =>
    obtain ⟨call, settled⟩ := p
    cases settled with
    | true => exact h.sends fun x hx => (nomatch hx)
    | false =>
      have hcall := h.called (call, false) (mem_of_getElem? hk)
      have hkeeps : ∀ sent : List Sent, (∀ x ∈ sent, ∀ p ∈ x.source, p ∈ w.presented) →
          Inv ⟨{ w.uplink with calls := w.uplink.calls.set k (call, true) }, w.sent ++ sent,
            w.presented ++ []⟩ := by
        intro sent hsent
        refine h.next (fun x hx p hp => mem_append_left _ (hsent x hx p hp))
          (fun i c j hi hopen hauth hj =>
            mem_append_left _ (h.authenticated i c j hi hopen hauth hj))
          h.subscribed (fun p hp => mem_append_left _ ?_)
        rcases mem_set hp with hold | hnew
        · exact h.called p hold
        · rw [hnew]
          exact hcall
      simp only
      cases w.uplink.clients[call.client]? with
      | none => exact hkeeps [] fun x hx => (nomatch hx)
      | some c =>
        simp only
        by_cases hclosed : c.connection = .closed
        · rw [if_pos hclosed]
          exact hkeeps [] fun x hx => (nomatch hx)
        · rw [if_neg hclosed]
          refine hkeeps _ fun x hx p hp => ?_
          obtain rfl := mem_singleton.1 hx
          obtain rfl := some_inj.1 hp
          exact hcall

end

variable {server : ChatServer}

theorem attached_iff {u : State} (h : u.chatServer = some server) (k : Nat) :
    u.attached k = true ↔ server.id = k := by
  rw [State.attached, h, any_some, decide_eq_true_eq]

section

variable (h : Inv w)
include h

/-- A frame gets to the bridge of the chat server: from then on its client has presented the token
to it. -/
theorem Inv.dispatched {i : Nat} {c : Client} (frame : Frame)
    (hserver : w.uplink.chatServer = some server)
    (hpresented : (i, server.id) ∈ w.presented ++ presented) (thrown : Option String) :
    Inv ⟨{ w.uplink with
      clients := w.uplink.clients.set i c
      calls := w.uplink.calls ++ [(⟨i, server.id, frame, thrown⟩, false)] },
      w.sent ++ [], w.presented ++ presented⟩ := by
  refine h.next (fun x hx => (nomatch hx)) (fun j d k hj hd hauth hk => ?_) h.subscribed
    (fun p hp => ?_)
  · rcases getElem_set hj with ⟨hji, _⟩ | ⟨_, hold⟩
    · rw [← (attached_iff hserver k).1 hk, hji]
      exact hpresented
    · exact mem_append_left _ (h.authenticated j d k hold hd hauth hk)
  · rcases mem_append hp with hold | hnew
    · exact mem_append_left _ (h.called p hold)
    · rw [hnew]
      exact hpresented

theorem Inv.handleFrame {i : Nat} {c : Client} {frame : Frame}
    (hi : w.uplink.clients[i]? = some c) (hopen : c.connection ≠ .closed) :
    Inv ⟨(w.uplink.handleFrame token i c frame).1,
      w.sent ++ (w.uplink.handleFrame token i c frame).2,
      w.presented ++ presents token w.uplink (.message i (.ok frame))⟩ := by
  have hignored : Inv ⟨w.uplink, w.sent ++ [],
      w.presented ++ presents token w.uplink (.message i (.ok frame))⟩ :=
    h.sends fun x hx => (nomatch hx)
  have hrefused : ∀ response, Inv ⟨w.uplink, w.sent ++ [.refused i response],
      w.presented ++ presents token w.uplink (.message i (.ok frame))⟩ := by
    intro response
    refine h.sends fun x hx p hp => ?_
    obtain rfl := mem_singleton.1 hx
    cases hp
  rw [State.handleFrame]
  by_cases hrequest : frame.isRequest = false
  · rw [if_pos hrequest]
    exact hignored
  rw [if_neg hrequest]
  by_cases hauth : frame.isHello = false ∧ c.authenticated = false
  · rw [if_pos hauth]
    exact hrefused _
  rw [if_neg hauth]
  by_cases hready : frame.isHello = false ∧ w.uplink.bridgeReady = false
  · rw [if_pos hready]
    exact hrefused _
  rw [if_neg hready]
  by_cases htoken : frame.isHello = true ∧ frame.tokenValid token = false
  · rw [if_pos htoken]
    exact hrefused _
  rw [if_neg htoken]
  cases hserver : w.uplink.chatServer with
  | none => exact hrefused _
  | some server =>
    -- a hello presents the token now, and any other request comes of a client that did
    have hpresented : (i, server.id) ∈
        w.presented ++ presents token w.uplink (.message i (.ok frame)) := by
      by_cases hhello : frame.isHello = true
      · refine mem_append_right _ ?_
        have hvalid : frame.tokenValid token = true := by
          by_contra hinvalid
          exact htoken ⟨hhello, not_eq_true _ |>.mp hinvalid⟩
        rw [not_eq_false] at hrequest
        rw [presents, hrequest, hhello, hvalid, hserver]
        exact mem_singleton_self _
      · have hother : frame.isHello = false := not_eq_true _ |>.mp hhello
        have hflag : c.authenticated = true := by
          by_contra hunset
          exact hauth ⟨hother, not_eq_true _ |>.mp hunset⟩
        exact mem_append_left _
          (h.authenticated i c server.id hi hopen hflag ((attached_iff hserver _).2 rfl))
    simp only
    by_cases hhandles : (server.bridge && server.handles) = true
    · rw [if_pos hhandles]
      cases frame.params with
      | error message => exact hrefused _
      | ok params =>
        simp only
        cases handle c frame.method params with
        | error message =>
          have hcall := h.dispatched (c := c) frame hserver hpresented (some message)
          rw [set_same hi] at hcall
          rw [← hserver]
          exact hcall
        | ok c' =>
          have hcall := h.dispatched (c := c') frame hserver hpresented none
          rw [← hserver]
          exact hcall
    · rw [if_neg hhandles]
      exact hrefused _

theorem Inv.handleMessage (i : Nat) (message : Except String Frame) :
    Inv (w.step token (.message i message)) := by
  rw [step, turn, State.handleMessage]
  cases hi : w.uplink.clients[i]? with
  | none => exact h.sends fun x hx => (nomatch hx)
  | some c =>
    simp only
    by_cases hclosed : c.connection = .closed
    · rw [if_pos hclosed]
      exact h.sends fun x hx => (nomatch hx)
    · rw [if_neg hclosed]
      cases message with
      | error text =>
        refine h.sends fun x hx p hp => ?_
        obtain rfl := mem_singleton.1 hx
        cases hp
      | ok frame => exact h.handleFrame hi hclosed

/-- A chat server is attached that no client is left for. -/
theorem Inv.attachChatServer
    (hok : w.NoneLeft (.attachChatServer server)) :
    Inv (w.step token (.attachChatServer server)) := by
  rw [step, turn, State.attachChatServer]
  by_cases hattached : w.uplink.attached server.id = true
  · rw [if_pos hattached]
    exact h.sends fun x hx => (nomatch hx)
  · rw [if_neg hattached]
    by_cases hwired : (server.bridge && server.emitter) = true
    · have hfresh := hok (not_eq_true _ |>.mp hattached) (and_eq_true_iff.1 hwired).1
        (and_eq_true_iff.1 hwired).2
      have hnext : ∀ subscribed : List Nat, (∀ k ∈ subscribed, k = server.id) →
          Inv ⟨{ w.uplink with
            chatServer := some server
            serverEventUnsubs := subscribed
            bridgeReady := true }, w.sent ++ [], w.presented ++ []⟩ := by
        intro subscribed hsubscribed
        refine h.next (fun x hx => (nomatch hx)) (fun i c k hi hopen hauth hk => ?_)
          (fun k hk => decide_eq_true (hsubscribed k hk).symm)
          (fun p hp => mem_append_left _ (h.called p hp))
        obtain rfl : server.id = k := (attached_iff rfl k).1 hk
        exact mem_append_left _
          (hfresh i (List.getElem?_eq_some_iff.1 hi).1 c hi hopen hauth)
      simp only [if_pos hwired]
      by_cases hsome : w.uplink.chatServer.isSome = true
      · rw [if_pos hsome]
        exact hnext [server.id] fun k hk => mem_singleton.1 hk
      · rw [if_neg hsome]
        -- with no chat server there is nothing that is subscribed to
        refine hnext (w.uplink.serverEventUnsubs ++ [server.id]) fun k hk => ?_
        rcases mem_append hk with hold | hnew
        · have hk' := h.subscribed k hold
          rw [not_isSome_iff_eq_none] at hsome
          rw [State.attached, hsome] at hk'
          cases hk'
        · exact hnew
    · simp only [if_neg hwired]
      by_cases hsome : w.uplink.chatServer.isSome = true
      · rw [if_pos hsome]
        exact h.detachChatServer token
      · rw [if_neg hsome]
        exact h.sends fun x hx => (nomatch hx)

theorem Inv.step {e : Event} (hok : w.NoneLeft e) : Inv (w.step token e) := by
  cases e with
  | connect => exact h.connect
  | message i message => exact h.handleMessage i message
  | settle k result => exact h.settle k result
  | emit server name => exact h.emit server name
  | error i => exact h.setConnection i .unlisted
  | close i => exact h.setConnection i .closed
  | attachChatServer server => exact h.attachChatServer hok
  | detachChatServer => exact h.detachChatServer token
  | setReady flag =>
    exact h.next (fun x hx => (nomatch hx))
      (fun i c k hi hopen hauth hk => mem_append_left _ (h.authenticated i c k hi hopen hauth hk))
      h.subscribed (fun p hp => mem_append_left _ (h.called p hp))

end

/-- A client that is left is authenticated with the chat server that comes next. -/
theorem noneLeft_of_bound {e : Event} (h : Bound (w.step token e)) : w.NoneLeft e := by
  cases e with
  | attachChatServer server =>
    intro hattached hbridge hemitter i _ c hi hopen hauth
    have hu : (turn token w.uplink (.attachChatServer server)).1.clients = w.uplink.clients ∧
        (turn token w.uplink (.attachChatServer server)).1.attached server.id = true := by
      rw [turn, State.attachChatServer, hattached, if_neg Bool.false_ne_true]
      simp only [hbridge, hemitter, Bool.and_self, if_true]
      refine ⟨?_, decide_eq_true rfl⟩
      by_cases hsome : w.uplink.chatServer.isSome = true
      · rw [if_pos hsome]
        rfl
      · rw [if_neg hsome]
    have hpresented := h.authenticated i c server.id (by rw [← hu.1] at hi; exact hi) hopen hauth hu.2
    rcases mem_append.1 hpresented with hold | hnew
    · exact hold
    · cases hnew
  | _ => trivial

/-- **Authentication is bound to the chat server** exactly where none is attached while a client is
left that is authenticated from before and did not present its token to it. -/
theorem run_staysBound_iff (token : String) (server : Option ChatServer) (es : List Event) :
    (∀ n, Bound (after token server (es.take n))) ↔
      Runs.Meets (step token) NoneLeft (started server) es := by
  constructor
  · exact Runs.meets_of_throughout (step token) (P := Bound)
      (fun _ _ _ hafter => noneLeft_of_bound hafter) es (started server)
  · intro h n
    have hkeeps : ∀ w e, Inv w → w.NoneLeft e → Inv (w.step token e) := fun _ _ hw he => hw.step he
    exact Runs.throughout (step token) (P := Bound) (fun es hm =>
      (Runs.invariant (step token) hkeeps es (started server) (inv_started server) hm).toBound) es h n

/-- A client says hello to a chat server; after a logout and a login it gets the events of the
next one. -/
theorem event_of_next : ¬ ∀ token server es, Bound (after token server es) := by
  intro h
  have hserved := (h "t" none [.connect, .attachChatServer ⟨0, true, true, true⟩,
    .message 0 (.ok ⟨true, "chat", "r1", "session.hello", some "t", .ok (some "alice", some "d1")⟩),
    .settle 0 (.ok ()), .detachChatServer, .attachChatServer ⟨1, true, true, true⟩,
    .emit 1 "message.deposited"]).served (.event 0 1 "message.deposited") (by decide) (0, 1) rfl
  exact absurd hserved (by decide)

end World

end RezChat.Transport.Uplink
