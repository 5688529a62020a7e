/-
Starting and stopping the chat server (`start` and `stop` of `server/app/ChatServerApp.js`,
`startChatServer` and `stopChatServer` of `index.js`).

A server is some twenty services. It is started by connecting to the node and then starting one
service after another, and stopped by stopping them the other way round, the runtime last. The host
holds the server that is running: it takes hold of one when it has started, and lets go of it before
it stops it.

Both loops end at the first service that throws. If a service does not start, those before it run on
and the connection stays open, in a server that nothing holds. If a service does not stop, those after
it, and among them always the runtime, are not even asked to (`half_started_half_stopped`).

A start that is rejected leaves nothing running exactly if it is rejected before the SDK is reached,
and a stop asks every service exactly if none throws but, at most, the runtime
(`allOrNothing_iff`). That the next start begins from scratch holds in any case.

What a service does when it is started or stopped is left open. The runtime is modelled as far as
these two go; it is never started, as `start` connects it instead.
-/
import RezChat.Lib.Runs

set_option autoImplicit false

namespace RezChat.Runtime.Life

open List Option

/-! ## Services -/

/-- The services, in the order of `#createServices`. -/
inductive ServiceName where
  | runtime
  | session
  | threads
  | messages
  | contacts
  | groups
  | channels
  | invites
  | diagnostics
  | connection
  | fileTransfer
  | profile
  | events
  | peerLinkProtocol
  | deviceSet
  | accountMutation
  | authorityPublication
  | deviceActivation
  | accountStateSync
  | siblingSync
  | links
  | deviceLink
  | inboxCatchup
  | inboundPipeline
  deriving DecidableEq

/-- What a server is built with: a `linksServiceFactory`, an `inboxClaimant`. -/
structure Build where
  linksServiceFactory : Bool
  inboxClaimant : Bool

/-- All but the runtime, which is the first. -/
def Build.others (b : Build) : List ServiceName :=
  [.session, .threads, .messages, .contacts, .groups, .channels, .invites, .diagnostics, .connection,
    .fileTransfer, .profile, .events, .peerLinkProtocol, .deviceSet, .accountMutation,
    .authorityPublication, .deviceActivation, .accountStateSync, .siblingSync] ++
  (if b.linksServiceFactory = true then [.links] else []) ++ [.deviceLink] ++
  (if b.inboxClaimant = true then [.inboxCatchup] else []) ++ [.inboundPipeline]

/-- `#services`. -/
def Build.services (b : Build) : List ServiceName := .runtime :: b.others

theorem runtime_not_mem_others (b : Build) : ServiceName.runtime ∉ b.others := by
  obtain ⟨links, claimant⟩ := b
  cases links <;> cases claimant <;> decide

/-! ## The runtime -/

/-- What becomes of an operation of the SDK. What it throws may say that it can be tried again. -/
inductive Turn where
  | ok
  | throws (retryable : Bool)
  deriving DecidableEq

/-- `sdkOpen`: the SDK has a session with the node. -/
structure RuntimeService where
  sdkOpen : Bool
  connected : Bool
  connectPending : Bool
  subscribed : Bool

namespace RuntimeService

/-- It has a connection, or will have one as soon as the node is there. -/
def Online (r : RuntimeService) : Prop := r.sdkOpen = true ∨ r.connectPending = true

/-- `connect`. The bind, with what comes after it, is the second of what may throw. -/
def connect (sdk bind : Turn) (r : RuntimeService) : RuntimeService × Turn :=
  if r.connected = true then (r, .ok)
  else
    match sdk with
    | .throws retryable =>
      ({ r with connectPending := r.connectPending || retryable }, .throws retryable)
    | .ok =>
      match bind with
      | .throws retryable => ({ r with sdkOpen := true }, .throws retryable)
      | .ok => ({ r with sdkOpen := true, connected := true, connectPending := false }, .ok)

/-- `disconnect`. -/
def disconnect (close : Turn) (r : RuntimeService) : RuntimeService :=
  if r.connected = true then
    match close with
    | .ok => { r with sdkOpen := false, connected := false }
    | .throws _ => r
  else { r with connectPending := false }

/-- `stop`. A failure of the disconnect is passed over. -/
def stop (close : Turn) (r : RuntimeService) : RuntimeService :=
  disconnect close { r with subscribed := false }

end RuntimeService

/-! ## The server -/

/-- What becomes of the `start` of a service. One that throws may leave something running. -/
inductive StartTurn where
  | absent
  | returns
  | throws (leaves : Bool)

/-- What becomes of its `stop`. -/
inductive StopTurn where
  | absent
  | returns
  | throws
  deriving DecidableEq

/-- `running`: the service was started, or partly, and was not stopped since. `asked`: its `stop` was
called. -/
structure Server where
  build : Build
  started : Bool
  runtime : RuntimeService
  running : ServiceName → Bool
  asked : ServiceName → Bool

/-- What becomes of the calls that a start makes. -/
structure Starting where
  sdk : Turn
  bind : Turn
  services : ServiceName → StartTurn

structure Stopping where
  services : ServiceName → StopTurn
  close : Turn

namespace Server

def fresh (build : Build) : Server :=
  ⟨build, false, ⟨false, false, false, true⟩, fun _ => false, fun _ => false⟩

def setRunning (s : Server) (name : ServiceName) (b : Bool) : Server :=
  { s with running := fun n => if n = name then b else s.running n }

def ask (s : Server) (name : ServiceName) : Server :=
  { s with asked := fun n => if n = name then true else s.asked n }

/-- The loop of `start`, and whether it got to its end. -/
def startServices (turn : ServiceName → StartTurn) : List ServiceName → Server → Server × Bool
  | [], s => (s, true)
  | name :: names, s =>
    if name = .runtime then startServices turn names s
    else
      match turn name with
      | .absent => startServices turn names s
      | .returns => startServices turn names (s.setRunning name true)
      | .throws leaves => (s.setRunning name leaves, false)

/-- `start`. A home that is unreachable does not end it. -/
def start (turns : Starting) (s : Server) : Server × Bool :=
  if s.started = true then (s, true)
  else
    match s.runtime.connect turns.sdk turns.bind with
    | (r, .throws false) => ({ s with started := true, runtime := r }, false)
    | (r, _) => startServices turns.services s.build.services { s with started := true, runtime := r }

/-- The loop of `stop`. The runtime's own `stop` does not throw. -/
def stopServices (turns : Stopping) : List ServiceName → Server → Server × Bool
  | [], s => (s, true)
  | name :: names, s =>
    if name = .runtime then
      stopServices turns names { s.ask .runtime with runtime := s.runtime.stop turns.close }
    else
      match turns.services name with
      | .absent => stopServices turns names s
      | .returns => stopServices turns names ((s.ask name).setRunning name false)
      | .throws => (s.ask name, false)

/-- `stop`. -/
def stop (turns : Stopping) (s : Server) : Server × Bool :=
  if s.started = false then (s, true)
  else
    match stopServices turns s.build.services.reverse s with
    | (s', true) => ({ s' with started := false }, true)
    | (s', false) => (s', false)

/-- Nothing of it runs, and it has no connection and will have none. -/
structure Down (s : Server) : Prop where
  running : ∀ name, s.running name = false
  offline : ¬s.runtime.Online

end Server

/-! ## The host -/

structure ChatServerIdentity where
  accountId : String
  publicKeyB64 : String
  privateKeyB64 : String
  hasAdminRoot : Option Bool
  certChain : List String

/-- A delegated identity has no account key, but a chain of certificates. -/
def ChatServerIdentity.delegatedShape (id : ChatServerIdentity) : Prop :=
  id.hasAdminRoot = some false ∧ id.certChain ≠ []

instance (id : ChatServerIdentity) : Decidable id.delegatedShape :=
  inferInstanceAs (Decidable (_ ∧ _))

/-- What `startChatServer` is called with, and what becomes of the calls it makes: `built` is what
the bootstrap builds, if it does not throw, and `attaches` says that `attachChatServer` does not. -/
structure StartCall where
  chatServerIdentity : Option ChatServerIdentity
  deviceKey : Bool
  built : Option Build
  turns : Starting
  attaches : Bool

/-- It can be started with what it is given. -/
def StartCall.Accepted (call : StartCall) : Prop :=
  ∃ id, call.chatServerIdentity = some id ∧ id.accountId ≠ "" ∧ id.publicKeyB64 ≠ "" ∧
    (id.privateKeyB64 ≠ "" ∨ id.delegatedShape) ∧ (id.delegatedShape → call.deviceKey = true)

instance (call : StartCall) : Decidable call.Accepted :=
  match hid : call.chatServerIdentity with
  | none => isFalse fun ⟨_, h, _⟩ => nomatch hid.symm.trans h
  | some id =>
    decidable_of_iff (id.accountId ≠ "" ∧ id.publicKeyB64 ≠ "" ∧
      (id.privateKeyB64 ≠ "" ∨ id.delegatedShape) ∧ (id.delegatedShape → call.deviceKey = true))
      ⟨fun h => ⟨id, hid, h⟩, fun ⟨_, h, hrest⟩ => some_inj.1 (hid.symm.trans h) ▸ hrest⟩

/-- The server that is held, whether the shell is attached to it, and the servers that were built and
that nothing holds. -/
structure Host where
  chatServerState : Option Server
  attached : Bool
  dropped : List Server

namespace Host

def fresh : Host := ⟨none, false, []⟩

/-- `startChatServer`, and whether it resolved. -/
def startChatServer (call : StartCall) (h : Host) : Host × Bool :=
  match h.chatServerState with
  | some _ => (h, true)
  | none =>
    if ¬call.Accepted then (h, false)
    else
      match call.built with
      | none => (h, false)
      | some build =>
        match (Server.fresh build).start call.turns with
        | (s, false) => ({ h with dropped := s :: h.dropped }, false)
        | (s, true) =>
          if call.attaches = true then ({ h with chatServerState := some s, attached := true }, true)
          else ({ h with dropped := s :: h.dropped }, false)

/-- `stopChatServer`. A failure of `stop` is passed over. -/
def stopChatServer (turns : Stopping) (h : Host) : Host :=
  match h.chatServerState with
  | none => h
  | some s => ⟨none, false, (s.stop turns).1 :: h.dropped⟩

end Host

/-! ## Runs and the law -/

/-- The host is called; or the runtime of the server that is held connects or disconnects. -/
inductive Event where
  | start (call : StartCall)
  | stop (turns : Stopping)
  | runtime (r : RuntimeService)

def step (h : Host) : Event → Host
  | .start call => (h.startChatServer call).1
  | .stop turns => h.stopChatServer turns
  | .runtime r => { h with chatServerState := h.chatServerState.map fun s => { s with runtime := r } }

/-- The host after a run. -/
def hostAfter (events : List Event) : Host := Runs.run step Host.fresh events

/-- Every call that the start makes gets through. -/
structure StartCall.Well (call : StartCall) : Prop where
  accepted : call.Accepted
  built : call.built ≠ none
  sdk : call.turns.sdk = .ok
  bind : call.turns.bind = .ok
  services : ∀ name leaves, call.turns.services name ≠ .throws leaves
  attaches : call.attaches = true

/-- A start in which every call gets through ends with a server that is new and runs. -/
def Host.StartsFromScratch (h : Host) : Prop :=
  ∀ call : StartCall, call.Well → (h.startChatServer call).2 = true ∧
    ∃ s, (h.startChatServer call).1.chatServerState = some s ∧ s.started = true ∧
      s.runtime.connected = true ∧
      ∀ name ∈ s.build.others, s.running name = true ∨ call.turns.services name = .absent

/-- A start that is rejected leaves nothing running of the server that it built, and the next one
begins from scratch. -/
def StartLeavesNothing (h : Host) (call : StartCall) : Prop :=
  (h.startChatServer call).2 = false →
    (∀ s, (h.startChatServer call).1.dropped = s :: h.dropped → s.Down) ∧
      (h.startChatServer call).1.StartsFromScratch

/-- A stop asks every service of the server that was held. -/
def StopAsksAll (h : Host) (turns : Stopping) : Prop :=
  ∀ s, (h.stopChatServer turns).dropped = s :: h.dropped → ∀ name ∈ s.build.services,
    s.asked name = true ∨ (name ≠ .runtime ∧ turns.services name = .absent)

/-- **The law.** -/
def AllOrNothing (h : Host) : Event → Prop
  | .start call => StartLeavesNothing h call
  | .stop turns => StopAsksAll h turns
  | .runtime _ => True

/-- A start that reaches the node, or may do so later, does not throw after that. -/
def StartClean (h : Host) (call : StartCall) : Prop :=
  h.chatServerState = none → call.Accepted → ∀ build, call.built = some build →
    call.turns.sdk ≠ .throws false →
      ((call.turns.sdk = .ok → call.turns.bind ≠ .throws false) ∧
        ∀ name ∈ build.others, ∀ leaves, call.turns.services name ≠ .throws leaves) ∧
      call.attaches = true

/-- No service throws when it is stopped. -/
def StopClean (h : Host) (turns : Stopping) : Prop :=
  ∀ s, h.chatServerState = some s → ∀ name ∈ s.build.others, turns.services name ≠ .throws

/-- When the law holds. -/
def Clean (h : Host) : Event → Prop
  | .start call => StartClean h call
  | .stop turns => StopClean h turns
  | .runtime _ => True

/-! ## The loops -/

namespace Server

section Start

variable {turn : ServiceName → StartTurn}

theorem startServices_runtime : ∀ (names : List ServiceName) (s : Server),
    (startServices turn names s).1.runtime = s.runtime
  | [], _ => rfl
  | name :: names, s => by
    unfold startServices
    split
    · exact startServices_runtime names s
    · split
      · exact startServices_runtime names s
      · exact startServices_runtime names (s.setRunning name true)
      · rfl

/-- The rest of a server is not touched. -/
theorem startServices_frame : ∀ (names : List ServiceName) (s : Server),
    (startServices turn names s).1.build = s.build ∧
      (startServices turn names s).1.started = s.started ∧
      (startServices turn names s).1.asked = s.asked
  | [], _ => ⟨rfl, rfl, rfl⟩
  | name :: names, s => by
    unfold startServices
    split
    · exact startServices_frame names s
    · split
      · exact startServices_frame names s
      · exact startServices_frame names (s.setRunning name true)
      · exact ⟨rfl, rfl, rfl⟩

/-- The loop gets to its end if no service throws. -/
theorem startServices_iff : ∀ (names : List ServiceName) (s : Server),
    (startServices turn names s).2 = true ↔
      ∀ name ∈ names, name ≠ .runtime → ∀ leaves, turn name ≠ .throws leaves
  | [], _ => ⟨fun _ => nofun, fun _ => rfl⟩
  | name :: names, s => by
    unfold startServices
    rw [forall_mem_cons]
    by_cases hname : name = .runtime
    · rw [if_pos hname, startServices_iff names s]
      exact (and_iff_right fun hne => absurd hname hne).symm
    · rw [if_neg hname]
      cases hturn : turn name with
      | absent =>
        refine (startServices_iff names s).trans (and_iff_right fun _ leaves => ?_).symm
        exact nofun
      | returns =>
        refine (startServices_iff names _).trans (and_iff_right fun _ leaves => ?_).symm
        exact nofun
      | throws leaves => exact ⟨nofun, fun h => absurd rfl (h.1 hname leaves)⟩

/-- What runs, runs on. -/
theorem startServices_running : ∀ (names : List ServiceName) (s : Server) (name : ServiceName),
    (∀ leaves, turn name ≠ .throws leaves) → s.running name = true →
    (startServices turn names s).1.running name = true
  | [], _, _, _, h => h
  | other :: names, s, name, hturn, h => by
    unfold startServices
    have hset : ∀ b, (other = name → b = true) → (s.setRunning other b).running name = true := by
      intro b hb
      show (if name = other then b else s.running name) = true
      split
      · rename_i heq
        exact hb heq.symm
      · exact h
    split
    · exact startServices_running names s name hturn h
    · split
      · exact startServices_running names s name hturn h
      · exact startServices_running names _ name hturn (hset true fun _ => rfl)
      · rename_i leaves hother
        refine hset leaves ?_
        rintro rfl
        exact absurd hother (hturn leaves)

/-- If no service throws, all of them run. -/
theorem startServices_all (hturn : ∀ name leaves, turn name ≠ .throws leaves) :
    ∀ (names : List ServiceName) (s : Server), ∀ name ∈ names, name ≠ .runtime →
      (startServices turn names s).1.running name = true ∨ turn name = .absent
  | other :: names, s, name, hname, hne => by
    unfold startServices
    rcases mem_cons.1 hname with rfl | hname
    · rw [if_neg hne]
      cases hother : turn name with
      | absent => exact Or.inr rfl
      | returns => exact Or.inl (startServices_running names _ name (hturn name) (if_pos rfl))
      | throws leaves => exact absurd hother (hturn name leaves)
    · by_cases hruntime : other = .runtime
      · rw [if_pos hruntime]
        exact startServices_all hturn names s name hname hne
      · rw [if_neg hruntime]
        cases hother : turn other with
        | absent => exact startServices_all hturn names s name hname hne
        | returns => exact startServices_all hturn names _ name hname hne
        | throws leaves => exact absurd hother (hturn other leaves)

end Start

section Stop

variable {turns : Stopping}

/-- The loop asks nobody that it has not come to. -/
theorem stopServices_frame : ∀ (names : List ServiceName) (s : Server),
    (stopServices turns names s).1.build = s.build ∧
      ∀ name, name ∉ names → (stopServices turns names s).1.asked name = s.asked name
  | [], _ => ⟨rfl, fun _ _ => rfl⟩
  | other :: names, s => by
    have hask : ∀ name, name ∉ other :: names → (s.ask other).asked name = s.asked name := by
      intro name hname
      refine if_neg ?_
      rintro rfl
      exact hname mem_cons_self
    unfold stopServices
    split
    · rename_i hruntime
      subst hruntime
      obtain ⟨hbuild, hasked⟩ := stopServices_frame names
        { s.ask .runtime with runtime := s.runtime.stop turns.close }
      refine ⟨hbuild, fun name hname => (hasked name fun hmem => ?_).trans (hask name hname)⟩
      exact hname (mem_cons_of_mem _ hmem)
    · split
      · obtain ⟨hbuild, hasked⟩ := stopServices_frame names s
        exact ⟨hbuild, fun name hname => hasked name fun hmem => hname (mem_cons_of_mem _ hmem)⟩
      · obtain ⟨hbuild, hasked⟩ := stopServices_frame names ((s.ask other).setRunning other false)
        refine ⟨hbuild, fun name hname => (hasked name fun hmem => ?_).trans (hask name hname)⟩
        exact hname (mem_cons_of_mem _ hmem)
      · exact ⟨rfl, fun name hname => hask name hname⟩

theorem ask_self (s : Server) (name : ServiceName) : (s.ask name).asked name = true := if_pos rfl

/-- Who was asked, was asked. -/
theorem stopServices_asked : ∀ (names : List ServiceName) (s : Server) (name : ServiceName),
    s.asked name = true → (stopServices turns names s).1.asked name = true
  | [], _, _, h => h
  | other :: names, s, name, h => by
    have hask : (s.ask other).asked name = true := by
      show (if name = other then true else s.asked name) = true
      split
      · rfl
      · exact h
    unfold stopServices
    split
    · rename_i hruntime
      subst hruntime
      exact stopServices_asked names _ name hask
    · split
      · exact stopServices_asked names s name h
      · exact stopServices_asked names _ name hask
      · exact hask

/-- If nobody throws, everybody is asked. -/
theorem stopServices_all : ∀ (names : List ServiceName) (s : Server),
    (∀ name ∈ names, name ≠ .runtime → turns.services name ≠ .throws) →
    ∀ name ∈ names, (stopServices turns names s).1.asked name = true ∨
      (name ≠ .runtime ∧ turns.services name = .absent)
  | other :: names, s, hturns, name, hname => by
    rw [forall_mem_cons] at hturns
    unfold stopServices
    by_cases hruntime : other = .runtime
    · subst hruntime
      rw [if_pos rfl]
      rcases mem_cons.1 hname with rfl | hname
      · exact Or.inl (stopServices_asked names _ _ (s.ask_self .runtime))
      · exact stopServices_all names _ hturns.2 name hname
    · rw [if_neg hruntime]
      cases hother : turns.services other with
      | absent =>
        rcases mem_cons.1 hname with rfl | hname
        · exact Or.inr ⟨hruntime, hother⟩
        · exact stopServices_all names s hturns.2 name hname
      | returns =>
        rcases mem_cons.1 hname with rfl | hname
        · exact Or.inl (stopServices_asked names _ _ (s.ask_self name))
        · exact stopServices_all names _ hturns.2 name hname
      | throws => exact absurd hother (hturns.1 hruntime)

/-- If somebody throws, the runtime, which is last, is not asked. -/
theorem stopServices_short : ∀ (names : List ServiceName) (s : Server), .runtime ∉ names →
    (∃ name ∈ names, turns.services name = .throws) →
    (stopServices turns (names ++ [.runtime]) s).1.asked .runtime = s.asked .runtime
  | [], _, _, h => by
    obtain ⟨name, hname, -⟩ := h
    exact nomatch hname
  | other :: names, s, hmem, hthrows => by
    rw [mem_cons, not_or] at hmem
    have hask : (s.ask other).asked .runtime = s.asked .runtime := if_neg hmem.1
    rw [cons_append]
    unfold stopServices
    rw [if_neg (Ne.symm hmem.1)]
    have hrest : turns.services other ≠ .throws → ∃ name ∈ names, turns.services name = .throws := by
      intro hother
      obtain ⟨name, hname, hthrow⟩ := hthrows
      rcases mem_cons.1 hname with rfl | hname
      · exact absurd hthrow hother
      · exact ⟨name, hname, hthrow⟩
    cases hother : turns.services other with
    | absent => exact stopServices_short names s hmem.2 (hrest (hother ▸ nofun))
    | returns => exact (stopServices_short names _ hmem.2 (hrest (hother ▸ nofun))).trans hask
    | throws => exact hask

end Stop

end Server

/-! ## The law holds exactly where nothing throws -/

/-- The server that is held has been started, and nobody of it was asked to stop. -/
def Host.Sound (h : Host) : Prop :=
  ∀ s, h.chatServerState = some s → s.started = true ∧ ∀ name, s.asked name = false

/-- How a start of a new server ends. -/
theorem start_fresh (build : Build) (turns : Starting) :
    ((Server.fresh build).start turns).1.build = build ∧
      ((Server.fresh build).start turns).1.started = true ∧
      ∀ name, ((Server.fresh build).start turns).1.asked name = false := by
  have rest : ∀ r, ((Server.startServices turns.services build.services
      { Server.fresh build with started := true, runtime := r }).1.build = build ∧
      (Server.startServices turns.services build.services
        { Server.fresh build with started := true, runtime := r }).1.started = true ∧
      ∀ name, (Server.startServices turns.services build.services
        { Server.fresh build with started := true, runtime := r }).1.asked name = false) := by
    intro r
    obtain ⟨hbuild, hstarted, hasked⟩ := @Server.startServices_frame turns.services build.services
      { Server.fresh build with started := true, runtime := r }
    exact ⟨hbuild, hstarted, fun name => congrFun hasked name⟩
  unfold Server.start
  rw [if_neg (by exact Bool.false_ne_true)]
  generalize (Server.fresh build).runtime.connect turns.sdk turns.bind = connected
  obtain ⟨r, turn⟩ := connected
  match turn with
  | .ok => exact rest r
  | .throws true => exact rest r
  | .throws false => exact ⟨rfl, rfl, fun _ => rfl⟩

theorem sound_step (h : Host) (e : Event) (hs : h.Sound) : (step h e).Sound := by
  cases e with
  | start call =>
    show (h.startChatServer call).1.Sound
    unfold Host.startChatServer
    split
    · exact hs
    · rename_i hnone
      have hsame : ∀ dropped, Host.Sound { h with dropped := dropped } :=
        fun _ s hheld => hs s hheld
      split
      · exact hs
      · split
        · exact hs
        · rename_i build _
          obtain ⟨-, hstarted, hasked⟩ := start_fresh build call.turns
          split
          · exact hsame _
          · rename_i s heq
            rw [heq] at hstarted hasked
            split
            · rintro s' hs'
              obtain rfl := some_inj.1 hs'
              exact ⟨hstarted, hasked⟩
            · exact hsame _
  | stop turns =>
    show (h.stopChatServer turns).Sound
    unfold Host.stopChatServer
    split
    · exact hs
    · exact nofun
  | runtime r =>
    rintro s hheld
    obtain ⟨s', hs', rfl⟩ := map_eq_some_iff.1 hheld
    exact hs s' hs'

theorem sound_hostAfter (events : List Event) : (hostAfter events).Sound :=
  Runs.invariant_all step sound_step events Host.fresh nofun

variable {build : Build} {turns : Starting}

/-- A start that does not reach the node leaves nothing. -/
theorem start_refused (h : turns.sdk = .throws false) :
    ((Server.fresh build).start turns).2 = false ∧ ((Server.fresh build).start turns).1.Down := by
  have hstart : (Server.fresh build).start turns =
      ({ Server.fresh build with started := true }, false) := by
    unfold Server.start RuntimeService.connect
    rw [if_neg (by exact Bool.false_ne_true), h]
    rfl
  rw [hstart]
  exact ⟨rfl, fun _ => rfl, by rintro (h | h) <;> exact nomatch h⟩

/-- One that does, or may yet, is online from then on, and gets to its end if nothing throws. -/
theorem start_reached (h : turns.sdk ≠ .throws false) :
    ((Server.fresh build).start turns).1.runtime.Online ∧
      (((Server.fresh build).start turns).2 = true ↔
        (turns.sdk = .ok → turns.bind ≠ .throws false) ∧
        ∀ name ∈ build.others, ∀ leaves, turns.services name ≠ .throws leaves) := by
  have rest : ∀ r : RuntimeService, r.Online →
      (Server.startServices turns.services build.services
        { Server.fresh build with started := true, runtime := r }).1.runtime.Online ∧
      ((Server.startServices turns.services build.services
        { Server.fresh build with started := true, runtime := r }).2 = true ↔
        ∀ name ∈ build.others, ∀ leaves, turns.services name ≠ .throws leaves) := by
    intro r hr
    rw [Server.startServices_runtime, Server.startServices_iff]
    refine ⟨hr, ?_⟩
    unfold Build.services
    rw [forall_mem_cons]
    constructor
    · rintro ⟨-, hothers⟩ name hname
      exact hothers name hname fun heq => runtime_not_mem_others build (heq ▸ hname)
    · exact fun hothers => ⟨fun hne => absurd rfl hne, fun name hname _ => hothers name hname⟩
  unfold Server.start RuntimeService.connect
  rw [if_neg (by exact Bool.false_ne_true), if_neg (by exact Bool.false_ne_true)]
  cases hsdk : turns.sdk with
  | throws retryable =>
    -- the home is not there, and the bind is owed
    cases retryable with
    | false => exact absurd hsdk h
    | true =>
      obtain ⟨honline, hiff⟩ := rest { sdkOpen := false, connected := false, connectPending := true, subscribed := true }
        (Or.inr rfl)
      exact ⟨honline, hiff.trans (and_iff_right nofun).symm⟩
  | ok =>
    cases hbind : turns.bind with
    | ok =>
      obtain ⟨honline, hiff⟩ := rest
        { sdkOpen := true, connected := true, connectPending := false, subscribed := true } (Or.inl rfl)
      exact ⟨honline, hiff.trans (and_iff_right fun _ => nofun).symm⟩
    | throws retryable =>
      cases retryable with
      | true =>
        obtain ⟨honline, hiff⟩ := rest
          { sdkOpen := true, connected := false, connectPending := false, subscribed := true }
          (Or.inl rfl)
        exact ⟨honline, hiff.trans (and_iff_right fun _ => nofun).symm⟩
      | false => exact ⟨Or.inl rfl, nofun, fun hwell => absurd rfl (hwell.1 rfl)⟩

/-- What is built when every call gets through. -/
theorem start_well (hsdk : turns.sdk = .ok)
    (hbind : turns.bind = .ok) (hservices : ∀ name leaves, turns.services name ≠ .throws leaves) :
    ((Server.fresh build).start turns).1.runtime.connected = true ∧
      ∀ name ∈ build.others, ((Server.fresh build).start turns).1.running name = true ∨
        turns.services name = .absent := by
  unfold Server.start RuntimeService.connect
  rw [if_neg (by exact Bool.false_ne_true), if_neg (by exact Bool.false_ne_true), hsdk, hbind]
  refine ⟨?_, fun name hname => ?_⟩
  · dsimp only
    rw [Server.startServices_runtime]
  · refine Server.startServices_all hservices _ _ name (mem_cons_of_mem _ hname) ?_
    rintro rfl
    exact runtime_not_mem_others build hname

/-- What `startChatServer` does with the server it has built. -/
theorem startChatServer_built {h : Host} {call : StartCall}
    (hstate : h.chatServerState = none) (haccepted : call.Accepted) (hbuilt : call.built = some build) :
    h.startChatServer call =
      if ((Server.fresh build).start call.turns).2 = true ∧ call.attaches = true then
        ({ h with
          chatServerState := some ((Server.fresh build).start call.turns).1
          attached := true }, true)
      else ({ h with dropped := ((Server.fresh build).start call.turns).1 :: h.dropped }, false) := by
  unfold Host.startChatServer
  rw [hstate, if_neg (not_not_intro haccepted), hbuilt]
  dsimp only
  generalize (Server.fresh build).start call.turns = started
  obtain ⟨s, ok⟩ := started
  cases ok with
  | false => rw [if_neg fun h => nomatch h.1]
  | true =>
    by_cases hattaches : call.attaches = true
    · rw [if_pos ⟨rfl, hattaches⟩]
      exact if_pos hattaches
    · rw [if_neg fun h => hattaches h.2]
      exact if_neg hattaches

theorem startsFromScratch {h : Host} (hnone : h.chatServerState = none) : h.StartsFromScratch := by
  rintro call ⟨haccepted, hbuilt, hsdk, hbind, hservices, hattaches⟩
  obtain ⟨build, hbuild⟩ := ne_none_iff_exists'.1 hbuilt
  have hreached := @start_reached build call.turns (by rw [hsdk]; exact nofun)
  have hok : ((Server.fresh build).start call.turns).2 = true :=
    hreached.2.2 ⟨fun _ => hbind ▸ nofun, fun name _ => hservices name⟩
  obtain ⟨hconnected, hrunning⟩ := @start_well build _ hsdk hbind hservices
  obtain ⟨hsame, hstarted, -⟩ := start_fresh build call.turns
  rw [startChatServer_built hnone haccepted hbuild, if_pos ⟨hok, hattaches⟩]
  refine ⟨rfl, _, rfl, hstarted, hconnected, ?_⟩
  rw [hsame]
  exact hrunning

/-- A server is not in the list it is put in front of. -/
theorem ne_cons_self {s : Server} {l : List Server} : l ≠ s :: l := fun h =>
  absurd (congrArg List.length h) (Nat.ne_of_lt (Nat.lt_succ_self _))

theorem start_iff (h : Host) (call : StartCall) : StartLeavesNothing h call ↔ StartClean h call := by
  unfold StartLeavesNothing
  cases hstate : h.chatServerState with
  | some s =>
    have hstart : h.startChatServer call = (h, true) := by
      unfold Host.startChatServer
      rw [hstate]
    rw [hstart]
    exact ⟨fun _ hnone => (nomatch hstate.symm.trans hnone), fun _ => nofun⟩
  | none =>
    have hscratch : ∀ dropped, Host.StartsFromScratch { h with dropped := dropped } := fun _ =>
      startsFromScratch hstate
    have hnothing : h.startChatServer call = (h, false) → ((h.startChatServer call).2 = false →
        (∀ s, (h.startChatServer call).1.dropped = s :: h.dropped → s.Down) ∧
          (h.startChatServer call).1.StartsFromScratch) := by
      intro hstart _
      rw [hstart]
      exact ⟨fun s hs => absurd hs ne_cons_self, hscratch _⟩
    by_cases haccepted : call.Accepted
    · cases hbuilt : call.built with
      | none =>
        refine ⟨fun _ _ _ build hbuild => (nomatch hbuilt.symm.trans hbuild), fun _ => hnothing ?_⟩
        unfold Host.startChatServer
        rw [hstate, if_neg (not_not_intro haccepted), hbuilt]
      | some build =>
        rw [startChatServer_built hstate haccepted hbuilt]
        by_cases hsdk : call.turns.sdk = .throws false
        · -- nothing was reached
          obtain ⟨hfalse, hdown⟩ := @start_refused build _ hsdk
          rw [if_neg fun hok => Bool.false_ne_true (hfalse.symm.trans hok.1)]
          refine ⟨fun _ _ _ _ _ hne => absurd hsdk hne, fun _ _ => ⟨fun s hs => ?_, hscratch _⟩⟩
          rw [← (List.cons.inj hs).1]
          exact hdown
        · obtain ⟨honline, hiff⟩ := @start_reached build _ hsdk
          have hclean : StartClean h call ↔
              ((Server.fresh build).start call.turns).2 = true ∧ call.attaches = true := by
            rw [hiff]
            constructor
            · exact fun hall => hall hstate haccepted build hbuilt hsdk
            · rintro hall - - build' hbuild' -
              obtain rfl := some_inj.1 (hbuilt.symm.trans hbuild')
              exact hall
          rw [hclean]
          by_cases hok : ((Server.fresh build).start call.turns).2 = true ∧ call.attaches = true
          · rw [if_pos hok]
            exact ⟨fun _ => hok, fun _ => nofun⟩
          · rw [if_neg hok]
            exact ⟨fun hlaw => absurd honline ((hlaw rfl).1 _ rfl).offline, fun h => absurd h hok⟩
    · refine ⟨fun _ _ hyes => absurd hyes haccepted, fun _ => hnothing ?_⟩
      unfold Host.startChatServer
      rw [hstate, if_pos haccepted]

theorem stop_iff {h : Host} (hs : h.Sound) (turns : Stopping) :
    StopAsksAll h turns ↔ StopClean h turns := by
  unfold StopAsksAll StopClean Host.stopChatServer
  cases hstate : h.chatServerState with
  | none => exact ⟨fun _ => nofun, fun _ s hs => absurd hs ne_cons_self⟩
  | some s =>
    obtain ⟨hstarted, hasked⟩ := hs s hstate
    have hreverse : s.build.services.reverse = s.build.others.reverse ++ [.runtime] :=
      reverse_cons
    have hstop : (s.stop turns).1.build = s.build ∧ (s.stop turns).1.asked =
        (Server.stopServices turns s.build.services.reverse s).1.asked := by
      have hbuild := (@Server.stopServices_frame turns s.build.services.reverse s).1
      unfold Server.stop
      rw [if_neg (by rw [hstarted]; exact Bool.noConfusion)]
      generalize Server.stopServices turns s.build.services.reverse s = stopped at hbuild
      obtain ⟨s', ok⟩ := stopped
      cases ok with
      | true => exact ⟨hbuild, rfl⟩
      | false => exact ⟨hbuild, rfl⟩
    constructor
    · -- if somebody throws, the runtime is not asked
      rintro hlaw s' hs' name hname hthrows
      obtain rfl := some_inj.1 hs'
      have hruntime := hlaw (s.stop turns).1 rfl .runtime (by
        rw [hstop.1]
        exact mem_cons_self)
      rw [hstop.2, hreverse, Server.stopServices_short _ _
        (fun hmem => runtime_not_mem_others s.build (mem_reverse.1 hmem))
        ⟨name, mem_reverse.2 hname, hthrows⟩, hasked] at hruntime
      rcases hruntime with hfalse | ⟨hne, -⟩
      · exact nomatch hfalse
      · exact absurd rfl hne
    · rintro hclean s' hs' name hname
      have hwhich := (List.cons.inj hs').1
      rw [← hwhich, hstop.1] at hname
      rw [← hwhich, hstop.2]
      refine Server.stopServices_all _ s (fun name hname hne => ?_) name (mem_reverse.2 hname)
      rcases mem_cons.1 (mem_reverse.1 hname) with rfl | hother
      · exact absurd rfl hne
      · exact hclean s rfl name hother

/-- **All or nothing.** After every run, the law holds of a start or a stop exactly where it is
clean. -/
theorem allOrNothing_iff (events : List Event) (e : Event) :
    AllOrNothing (hostAfter events) e ↔ Clean (hostAfter events) e := by
  cases e with
  | start call => exact start_iff _ call
  | stop turns => exact stop_iff (sound_hostAfter events) turns
  | runtime r => exact Iff.rfl

/-! ## A service that throws -/

/-- A start with an account key, of a server with an inbox, in which at most one service throws. -/
def startOf (turn : ServiceName → StartTurn) : StartCall where
  chatServerIdentity := some ⟨"rez:acct:ann", "pub", "priv", none, []⟩
  deviceKey := true
  built := some ⟨false, true⟩
  turns := ⟨.ok, .ok, turn⟩
  attaches := true

/-- The transfer of files does not start, and the catch-up does not stop. -/
def failingStart : StartCall := startOf fun name =>
  if name = .fileTransfer then .throws false else .returns

def failingStop : Stopping where
  services name := if name = .inboxCatchup then .throws else .returns
  close := .ok

/-- The connection of the server that did not start is left open, and the runtime of the server that
was stopped is not asked to stop. -/
theorem half_started_half_stopped :
    ¬AllOrNothing (hostAfter []) (.start failingStart) ∧
    ¬AllOrNothing (hostAfter [.start (startOf fun _ => .returns)]) (.stop failingStop) := by
  refine ⟨fun h => ?_, fun h => ?_⟩
  · obtain ⟨hdown, -⟩ := h (by decide)
    refine (hdown ((Server.fresh ⟨false, true⟩).start failingStart.turns).1 rfl).offline (Or.inl ?_)
    decide
  · have hruntime := h _ rfl .runtime (by decide)
    revert hruntime
    decide

end RezChat.Runtime.Life
