/-
The events that the window is sent.

The IPC layer subscribes to the bus of the chat server over the bridge, when a connect has
succeeded, and keeps a handle of the subscription. While it has one it does not subscribe again. But
the bridge is closed by the supervisor: by a lock, by the timer that locks the vault, by a change of
the password and by an import. The handle is then one of a subscription that is gone, and only a
disconnect of the window drops it. A connect that succeeds before that sends the window nothing
(`nothing_after_lock`).

In every run in which no connect succeeds with such a handle, no server is stopped under the bridge
to it, and none is put where another one was, the window is sent every event of the server that it
is connected to once, and none of another one (`run_followsLive`).
-/
import RezChat.Desktop.Lock

set_option autoImplicit false

namespace RezChat.Desktop

open Option RezChat.Task Supervisor OrdMap Bool

/-! ## The law -/

/-- While the window is connected it is sent every event of the chat server once. It is never sent
an event of another one. -/
def Supervisor.FollowsLive (s : Supervisor) : Prop :=
  (s.connected = true → ∃ x, s.chatServer = some x ∧ s.deliveries x = 1) ∧
    ∀ y, s.chatServer ≠ some y → s.deliveries y = 0

/-- Nothing of what breaks the law has happened. -/
structure Supervisor.Steady (s : Supervisor) : Prop where
  crossed : s.crossed = false
  undercut : s.undercut = false
  missed : s.missed = false

/-- The bridge is one to the chat server, and there is a subscription over it just if the handle is
not one to a bridge that was closed. -/
structure Supervisor.Wired (s : Supervisor) : Prop where
  bridge : ∀ b, s.busBridge = some b → s.chatServer = some b.server
  released : s.busEventUnsub = none → s.severed = false
  silent : s.busEventUnsub = none ∨ s.severed = true →
    s.subscriptions = empty ∧ ∀ b, s.busBridge = some b → b.unsubs = []
  attached : ∀ u, s.busEventUnsub = some u → s.severed = false →
    ∃ b, s.busBridge = some b ∧ b.unsubs = [u] ∧ s.subscriptions = empty.set u b.server

/-- Between two segments a window that is connected has its subscription. -/
structure Supervisor.Pumping (s : Supervisor) : Prop where
  wired : s.Wired
  live : s.connected = true → s.busEventUnsub.isSome = true ∧ s.severed = false

namespace EventPump

def eventDiscipline : Discipline Supervisor where
  inv s := s.Steady → s.Pumping
  rely _ _ _ := True
  refl _ _ := trivial
  trans _ _ := trivial

section Writes

variable {s : Supervisor} {k x : Nat}

theorem delete_single (u x : Nat) :
    ((OrdMap.empty : OrdMap Nat Nat).set u x).delete u = OrdMap.empty := by
  simp [OrdMap.delete, OrdMap.set, OrdMap.setEntry, OrdMap.empty]

theorem delete_empty (u : Nat) : (empty : OrdMap Nat Nat).delete u = empty := rfl

/-- What is connected has a chat server. -/
theorem chatServer_of_live (h : s.Pumping) (hconnected : s.connected = true) :
    s.chatServer.isSome = true := by
  obtain ⟨hsome, hsevered⟩ := h.live hconnected
  obtain ⟨u, hu⟩ := isSome_iff_exists.1 hsome
  obtain ⟨b, hb, -, -⟩ := h.wired.attached u hu hsevered
  rw [h.wired.bridge b hb]
  rfl

/-- Where there is no server there is no bridge. -/
theorem bridge_none (h : s.Wired) (hserver : s.chatServer = none) : s.busBridge = none := by
  cases hb : s.busBridge with
  | none => rfl
  | some b => exact absurd (hserver.symm.trans (h.bridge b hb)) (by simp)

/-- A change of nothing that the window's subscription is about. -/
theorem pumping_of_same {s' : Supervisor} (h : s.Pumping) (hserver : s'.chatServer = s.chatServer)
    (hbridge : s'.busBridge = s.busBridge) (hunsub : s'.busEventUnsub = s.busEventUnsub)
    (hsubs : s'.subscriptions = s.subscriptions) (hsevered : s'.severed = s.severed)
    (hconnected : s'.connected = s.connected) : s'.Pumping := by
  refine ⟨⟨?_, ?_, ?_, ?_⟩, ?_⟩
  · rw [hbridge, hserver]
    exact h.wired.bridge
  · rw [hunsub, hsevered]
    exact h.wired.released
  · rw [hunsub, hsevered, hsubs, hbridge]
    exact h.wired.silent
  · rw [hunsub, hsevered, hsubs, hbridge]
    exact h.wired.attached
  · rw [hconnected, hunsub, hsevered]
    exact h.live

/-- The same where the chat server changes while there is no bridge. -/
theorem wired_of_unbridged {s' : Supervisor} (h : s.Wired) (hnone : s.busBridge = none)
    (hbridge : s'.busBridge = s.busBridge) (hunsub : s'.busEventUnsub = s.busEventUnsub)
    (hsubs : s'.subscriptions = s.subscriptions) (hsevered : s'.severed = s.severed) : s'.Wired := by
  refine ⟨fun b hb => ?_, ?_, ?_, ?_⟩
  · rw [hbridge, hnone] at hb
    cases hb
  · rw [hunsub, hsevered]
    exact h.released
  · rw [hunsub, hsevered, hsubs, hbridge]
    exact h.silent
  · rw [hunsub, hsevered, hsubs, hbridge]
    exact h.attached

/-- Without a bridge nothing is connected. -/
theorem not_connected (h : s.Pumping) (hnone : s.busBridge = none) : s.connected = false := by
  by_contra hconnected
  obtain ⟨hsome, hsevered⟩ := h.live (eq_true_of_not_eq_false hconnected)
  obtain ⟨u, hu⟩ := isSome_iff_exists.1 hsome
  obtain ⟨b, hb, -, -⟩ := h.wired.attached u hu hsevered
  rw [hnone] at hb
  cases hb

/-! ### The bridge -/

/-- What is left when the bridge is closed: the subscription went with it. -/
theorem wired_closeBridge (h : s.Wired) : s.closeBridge.Wired ∧ s.closeBridge.busBridge = none := by
  cases hb : s.busBridge with
  | none =>
    have hsame : s.closeBridge = s := by rw [closeBridge, hb]
    rw [hsame]
    exact ⟨h, hb⟩
  | some b =>
    have hclose : s.closeBridge = { s with
        subscriptions := s.without b.unsubs
        busBridge := none
        severed := s.severed || s.busEventUnsub.isSome } := by rw [closeBridge, hb]
    have hempty : s.without b.unsubs = empty := by
      by_cases hsilent : s.busEventUnsub = none ∨ s.severed = true
      · rw [without, (h.silent hsilent).2 b hb]
        exact (h.silent hsilent).1
      · obtain ⟨hsome, hsevered⟩ := not_or.1 hsilent
        obtain ⟨u, hu⟩ := ne_none_iff_exists'.1 hsome
        obtain ⟨b', hb', hunsubs, hsubs⟩ := h.attached u hu (eq_false_of_not_eq_true hsevered)
        obtain rfl := some_inj.1 (hb.symm.trans hb')
        rw [without, hunsubs, hsubs]
        exact delete_single u b.server
    rw [hclose]
    refine ⟨⟨fun b' hb' => ?_, fun hnone => ?_, fun _ => ⟨hempty, fun b' hb' => ?_⟩,
      fun u hu hsevered => ?_⟩, rfl⟩
    · cases hb'
    · have hunsub : s.busEventUnsub = none := hnone
      show (s.severed || s.busEventUnsub.isSome) = false
      rw [h.released hunsub, hunsub]
      rfl
    · cases hb'
    · have hunsub : s.busEventUnsub = some u := hu
      have hno : (s.severed || s.busEventUnsub.isSome) = false := hsevered
      rw [hunsub, isSome_some, Bool.or_true] at hno
      cases hno

/-- What is left when the window drops its handle. -/
theorem wired_detachBusEvents (h : s.Wired) : s.detachBusEvents.Wired := by
  cases hu : s.busEventUnsub with
  | none =>
    have hsame : s.detachBusEvents = s := by rw [detachBusEvents, hu]
    rw [hsame]
    exact h
  | some u =>
    have hdetach : s.detachBusEvents = { s with
        subscriptions := s.subscriptions.delete u
        busBridge := s.busBridge.map fun b => { b with unsubs := b.unsubs.filter (· ≠ u) }
        busEventUnsub := none
        severed := false } := by rw [detachBusEvents, hu]
    have hsubs : s.subscriptions.delete u = empty ∧
        ∀ b, s.busBridge = some b → b.unsubs.filter (· ≠ u) = [] := by
      cases hsevered : s.severed with
      | true =>
        obtain ⟨hempty, hunsubs⟩ := h.silent (.inr hsevered)
        refine ⟨?_, fun b hb => ?_⟩
        · rw [hempty]
          exact delete_empty u
        · rw [hunsubs b hb]
          rfl
      | false =>
        obtain ⟨b, hb, hunsubs, hsubs⟩ := h.attached u hu hsevered
        refine ⟨?_, fun b' hb' => ?_⟩
        · rw [hsubs]
          exact delete_single u b.server
        · obtain rfl := some_inj.1 (hb.symm.trans hb')
          rw [hunsubs]
          simp
    rw [hdetach]
    refine ⟨fun b' hb' => ?_, fun _ => rfl, fun _ => ⟨hsubs.1, fun b' hb' => ?_⟩, fun v hv => ?_⟩
    · obtain ⟨b, hb, rfl⟩ := map_eq_some_iff.1 hb'
      exact h.bridge b hb
    · obtain ⟨b, hb, rfl⟩ := map_eq_some_iff.1 hb'
      exact hsubs.2 b hb
    · cases hv

/-- A bridge is made to the chat server. -/
theorem pumping_openBridge (h : s.Pumping) (hnone : s.busBridge = none)
    (hserver : s.chatServer = some x) : (s.openBridge x).Pumping := by
  have hlive : s.connected = true → False := fun hconnected => by
    rw [not_connected h hnone] at hconnected
    cases hconnected
  refine ⟨⟨fun b hb => ?_, h.wired.released, fun hsilent => ?_, fun u hu hsevered => ?_⟩,
    fun hconnected => (hlive hconnected).elim⟩
  · obtain rfl := some_inj.1 hb
    exact hserver
  · refine ⟨(h.wired.silent hsilent).1, fun b hb => ?_⟩
    rw [← some_inj.1 hb]
  · -- a handle that is not stale is one to a bridge
    obtain ⟨b, hb, -, -⟩ := h.wired.attached u hu hsevered
    rw [hnone] at hb
    cases hb

/-- The window subscribes. -/
theorem pumping_subscribeEvents (h : s.Pumping) (hunsub : s.busEventUnsub = none) {b : BusBridge}
    (hb : s.busBridge = some b) : (s.subscribeEvents b).Pumping := by
  obtain ⟨hempty, hunsubs⟩ := h.wired.silent (.inl hunsub)
  have hsevered := h.wired.released hunsub
  refine ⟨⟨fun b' hb' => ?_, fun hnone => ?_, fun hsilent => ?_, fun u hu _ => ?_⟩, fun _ => ?_⟩
  · obtain rfl := some_inj.1 hb'
    exact h.wired.bridge b hb
  · cases hnone
  · rcases hsilent with hnone | hstale
    · cases hnone
    · rw [show (s.subscribeEvents b).severed = s.severed from rfl, hsevered] at hstale
      cases hstale
  · obtain rfl := some_inj.1 hu
    refine ⟨_, rfl, ?_, ?_⟩
    · show s.nextId :: b.unsubs = _
      rw [hunsubs b hb]
    · show s.subscriptions.set s.nextId b.server = _
      rw [hempty]
  · exact ⟨rfl, hsevered⟩

/-! ### The chat server -/

/-- The app loses its server, to which there is no bridge. -/
theorem pumping_detachChatServer (hs : (s.detachChatServer k x).Steady) (h : s.Wired)
    (hlive : s.chatApp ≠ some k → s.Pumping) : (s.detachChatServer k x).Pumping := by
  obtain ⟨-, hunder⟩ := or_eq_false_iff.1 hs.undercut
  by_cases happ : s.chatApp = some k
  · have hnone : s.busBridge = none := by simpa [happ] using hunder
    refine ⟨wired_of_unbridged h hnone rfl rfl rfl rfl, fun hconnected => ?_⟩
    have hno : (s.connected && decide (s.chatApp ≠ some k)) = true := hconnected
    rw [happ] at hno
    simp at hno
  · refine pumping_of_same (hlive happ) ?_ rfl rfl rfl rfl ?_
    · show s.chatApp.bind (s.chatServerState.delete k).get? = s.chatApp.bind s.chatServerState.get?
      cases hk : s.chatApp with
      | none => rfl
      | some k' =>
        have hne : k' ≠ k := fun h => happ (h ▸ hk)
        exact get?_delete_of_ne _ hne
    · show (s.connected && decide (s.chatApp ≠ some k)) = s.connected
      rw [decide_eq_true happ, Bool.and_true]

theorem pumping_attachChatServer {i : Nat} (hs : (s.attachChatServer i k x).Steady) (h : s.Pumping) :
    (s.attachChatServer i k x).Pumping := by
  obtain ⟨hcrossed, happ⟩ := or_eq_false_iff.1 hs.crossed
  obtain ⟨-, hnone⟩ := or_eq_false_iff.1 hcrossed
  have hserver : s.chatServer = none := by
    have happ : s.chatApp = some k := by simpa using happ
    rw [chatServer, happ, bind_some]
    simpa using hnone
  have hbridge := bridge_none h.wired hserver
  refine ⟨wired_of_unbridged h.wired hbridge rfl rfl rfl rfl, fun hconnected => ?_⟩
  exact h.live hconnected

theorem pumping_hold (hs : (s.hold k).Steady) (h : s.Pumping) : (s.hold k).Pumping := by
  obtain ⟨-, happ⟩ := or_eq_false_iff.1 hs.crossed
  have hserver : s.chatServer = none := by
    have happ : s.chatApp = none := by simpa using happ
    rw [chatServer, happ, bind_none]
  exact ⟨wired_of_unbridged h.wired (bridge_none h.wired hserver) rfl rfl rfl rfl, h.live⟩

theorem pumping_giveUp (hs : s.giveUp.Steady) (h : s.Pumping) : s.giveUp.Pumping := by
  obtain ⟨-, hserver⟩ := or_eq_false_iff.1 hs.crossed
  have hserver : s.chatServer = none := by simpa using hserver
  exact ⟨wired_of_unbridged h.wired (bridge_none h.wired hserver) rfl rfl rfl rfl, h.live⟩

theorem pumping_connectDone (hs : s.connectDone.Steady) (h : s.Pumping)
    (hunsub : s.busEventUnsub.isSome = true) : s.connectDone.Pumping := by
  obtain ⟨-, hsevered⟩ := or_eq_false_iff.1 hs.missed
  exact ⟨⟨h.wired.bridge, h.wired.released, h.wired.silent, h.wired.attached⟩,
    fun _ => ⟨hunsub, hsevered⟩⟩

end Writes

/-! ## What the calls keep -/

section Calls

variable {i : Nat} {s₀ s : Supervisor}

/-- The segment is settled. Nothing here is a call's own. -/
abbrev Fine (i : Nat) : Supervisor → Supervisor → Prop := eventDiscipline.Fine i fun _ => True

theorem owns (i : Nat) : eventDiscipline.Owns i fun _ => True := fun _ _ _ _ => trivial

theorem fine_of (h : s.Steady → s.Pumping) : Fine i s₀ s := ⟨⟨h, fun _ _ => trivial⟩, trivial⟩

abbrev Keeping (i : Nat) {α : Type} (t : Task Supervisor α) : Prop :=
  Task.Keeping eventDiscipline i (fun _ => True) t

/-- A write of something else. -/
theorem fine_of_same {s' : Supervisor} (h : Fine i s₀ s) (hsteady : s'.Steady → s.Steady)
    (hserver : s'.chatServer = s.chatServer) (hbridge : s'.busBridge = s.busBridge)
    (hunsub : s'.busEventUnsub = s.busEventUnsub) (hsubs : s'.subscriptions = s.subscriptions)
    (hsevered : s'.severed = s.severed) (hconnected : s'.connected = s.connected) : Fine i s₀ s' :=
  fine_of fun hs =>
    pumping_of_same (h.1.1 (hsteady hs)) hserver hbridge hunsub hsubs hsevered hconnected

theorem steady_of_detachChatServer {k x : Nat} (h : (s.detachChatServer k x).Steady) : s.Steady :=
  ⟨h.crossed, (or_eq_false_iff.1 h.undercut).1, h.missed⟩

theorem permits (i : Nat) : Permits eventDiscipline i fun _ => True where
  owns := owns i
  numbered _ _ h := fine_of_same h (fun hs => ⟨hs.1, hs.2, hs.3⟩) rfl rfl rfl rfl rfl rfl
  detached _ _ _ _ _ h := fine_of fun hs =>
    have hp := h.1.1 (steady_of_detachChatServer hs)
    pumping_detachChatServer hs hp.wired fun _ => hp
  stopped _ _ _ h := fine_of_same h (fun hs => ⟨hs.1, hs.2, hs.3⟩) rfl rfl rfl rfl rfl rfl
  leaked _ _ _ h := fine_of_same h (fun hs => ⟨hs.1, hs.2, hs.3⟩) rfl rfl rfl rfl rfl rfl
  appStopped _ _ _ h := fine_of_same h (fun hs => ⟨hs.1, hs.2, hs.3⟩) rfl rfl rfl rfl rfl rfl
  givenUp _ _ h := fine_of fun hs =>
    pumping_giveUp hs (h.1.1 ⟨(or_eq_false_iff.1 hs.1).1, hs.2, hs.3⟩)
  bridged _ _ _ hnone hserver h := fine_of fun hs =>
    pumping_openBridge (h.1.1 ⟨hs.1, hs.2, hs.3⟩) hnone hserver

/-! ### Disconnecting

A disconnect closes the bridge and takes the server away before it waits. In between the window may
be connected and have no subscription. -/

theorem steady_of_closeBridge (h : s.closeBridge.Steady) : s.Steady := by
  rw [closeBridge] at h
  cases hb : s.busBridge with
  | none =>
    rw [hb] at h
    exact h
  | some b =>
    rw [hb] at h
    exact ⟨h.crossed, h.undercut, h.missed⟩

theorem steady_of_detachBusEvents (h : s.detachBusEvents.Steady) : s.Steady := by
  rw [detachBusEvents] at h
  cases hu : s.busEventUnsub with
  | none =>
    rw [hu] at h
    exact h
  | some u =>
    rw [hu] at h
    exact ⟨h.crossed, h.undercut, h.missed⟩

/-- What a disconnect needs: a window that is connected has a server that is taken away. -/
def Closable (s : Supervisor) : Prop := s.Wired ∧ (s.connected = true → s.chatServer.isSome = true)

theorem closable_of_pumping (h : s.Pumping) : Closable s := ⟨h.wired, chatServer_of_live h⟩

theorem closable_closeBridge (h : Closable s) : Closable s.closeBridge := by
  refine ⟨(wired_closeBridge h.1).1, ?_⟩
  have hlive := h.2
  rw [closeBridge]
  cases s.busBridge with
  | none => exact hlive
  | some b => exact hlive

theorem closable_detachBusEvents (h : Closable s) : Closable s.detachBusEvents := by
  refine ⟨wired_detachBusEvents h.1, ?_⟩
  have hlive := h.2
  rw [detachBusEvents]
  cases s.busEventUnsub with
  | none => exact hlive
  | some u => exact hlive

/-- Where there is no server, nothing was connected. -/
theorem pumping_of_closable (h : Closable s) (hserver : s.chatServer = none) : s.Pumping := by
  refine ⟨h.1, fun hconnected => ?_⟩
  have hsome := h.2 hconnected
  rw [hserver] at hsome
  cases hsome

theorem safe_disconnect (h : s.Steady → Closable s) :
    Safe eventDiscipline i (fun _ => Fine i) (Fine i) disconnect s₀ s := by
  have hclosed : s.closeBridge.Steady → Closable s.closeBridge := fun hs =>
    closable_closeBridge (h (steady_of_closeBridge hs))
  refine Task.safe_modified (Task.safe_got ?_)
  generalize s.closeBridge = s at hclosed
  cases happ : s.chatApp with
  | none =>
    have hserver : s.chatServer = none := by rw [chatServer, happ, bind_none]
    exact fine_of fun hs => pumping_of_closable (hclosed hs) hserver
  | some k =>
    refine safe_calledFine (fun _ => owns i) (owns i) (Task.safe_got ?_)
    cases hget : s.chatServerState.get? k with
    | none =>
      have hserver : s.chatServer = none := by
        rw [chatServer, happ, bind_some, hget]
      exact fine_of fun hs => pumping_of_closable (hclosed hs) hserver
    | some x =>
      have hstop := ((permits i).keeping_stopServer x).tryCatch (keeping_pure ())
      refine Task.safe_modified (hstop s₀ _ (fine_of fun hs => ?_))
      have hsteady := steady_of_detachChatServer hs
      exact pumping_detachChatServer hs (hclosed hsteady).1 fun hne => absurd happ hne

theorem keeping_disconnect : Keeping i disconnect := fun _ _ hs =>
  safe_disconnect fun hsteady => closable_of_pumping (hs.1.1 hsteady)

theorem keeping_disconnectFirst : Keeping i disconnectFirst := by
  intro s₀ s hs
  refine Task.safe_got ?_
  by_cases happ : s.chatApp.isSome = true
  · rw [if_pos happ]
    exact keeping_disconnect.called (owns i) s₀ s hs
  · rw [if_neg happ]
    exact hs

/-! ### Locking -/

theorem fine_secure (h : Fine i s₀ s) : Fine i s₀ (s.secure i) :=
  fine_of_same h (fun hs => ⟨hs.1, hs.2, hs.3⟩) rfl rfl rfl rfl rfl rfl

theorem fine_lockFailed (h : Fine i s₀ s) (lockIncomplete : Bool) :
    Fine i s₀ (s.lockFailed i lockIncomplete) :=
  fine_of_same h (fun hs => ⟨hs.1, hs.2, hs.3⟩) rfl rfl rfl rfl rfl rfl

theorem fine_lockVault (h : Fine i s₀ s) : Fine i s₀ (s.lockVault i) :=
  fine_of_same h (fun hs => ⟨hs.1, hs.2, hs.3⟩) rfl rfl rfl rfl rfl rfl

theorem keeping_finishLock : Keeping i (finishLock i) := by
  intro s₀ s hs
  refine Task.safe_got ?_
  by_cases hdown : s.runtimeIsDown = true
  · rw [if_pos hdown]
    exact fine_secure hs
  · rw [if_neg hdown]
    have hforced := (permits i).keeping_forceRuntimeShutdown.called (owns i) s₀ s hs
    refine Task.safe_seq hforced fun forced s₀ s hs => Task.safe_got ?_
    by_cases hdone : forced = true ∧ s.runtimeIsDown = true
    · rw [if_pos hdone]
      exact fine_secure hs
    · rw [if_neg hdone]
      exact fine_lockFailed hs true

theorem keeping_tryDisconnect : Keeping i (tryCatch (pure ()) (called disconnect)) :=
  (keeping_disconnect.called (owns i)).tryCatch (keeping_pure ())

theorem keeping_lock (statusThrows : Bool) : Keeping i (lock i statusThrows) := by
  refine keeping_tryDisconnect.bind fun _ s₀ s hs => Task.safe_modified ?_
  cases statusThrows with
  | true => exact fine_lockFailed (fine_lockVault hs) s.lockIncomplete
  | false => exact keeping_finishLock s₀ _ (fine_lockVault hs)

theorem keeping_autoLock : Keeping i (autoLock i) := by
  intro s₀ s hs
  refine Task.safe_got ?_
  by_cases hactive : s.vault.activeAccount.isNone = true
  · rw [if_pos hactive]
    exact hs
  · rw [if_neg hactive]
    refine Task.safe_modified (safe_paused (owns i) (fine_lockVault hs) fun s hs => ?_)
    exact keeping_tryDisconnect.bind (fun _ => keeping_finishLock) s s hs

/-! ### Connecting -/

theorem keeping_startServer (x : Nat) : Keeping i (startServer i x) := by
  intro s₀ s hs
  refine safe_waited (owns i) hs fun r s hs => ?_
  cases r with
  | ok =>
    refine safe_paused (owns i) ?_ fun _ hs => hs
    exact fine_of_same hs (fun hs => ⟨hs.1, hs.2, hs.3⟩) rfl rfl rfl rfl rfl rfl
  | throws => exact safe_paused (owns i) hs fun _ hs => hs
  | throwsLate =>
    refine safe_paused (owns i) ?_ fun _ hs => hs
    exact fine_of_same hs (fun hs => ⟨hs.1, hs.2, hs.3⟩) rfl rfl rfl rfl rfl rfl

theorem fine_attachChatServer {k x : Nat} (h : Fine i s₀ s) :
    Fine i s₀ (s.attachChatServer i k x) := fine_of fun hs => by
  have hcrossed := (or_eq_false_iff.1 (or_eq_false_iff.1 hs.crossed).1).1
  exact pumping_attachChatServer hs (h.1.1 ⟨hcrossed, hs.undercut, hs.missed⟩)

theorem keeping_startChatServer (k : Nat) (identity : ChatServerIdentity)
    (deviceKey : Option (String × KeyPair)) : Keeping i (startChatServer i k identity deviceKey) := by
  intro s₀ s hs
  refine Task.safe_got ?_
  by_cases hserver : (s.chatServerState.get? k).isSome = true
  · rw [if_pos hserver]
    exact hs
  rw [if_neg hserver]
  by_cases hstartable : identity.startable deviceKey = false
  · rw [if_pos hstartable]
    exact hs
  rw [if_neg hstartable]
  refine (permits i).keeping_made.bind (fun x => (keeping_startServer x).bind fun _ => ?_) s₀ s hs
  exact fun _ _ hs => fine_attachChatServer hs

theorem keeping_connectApp (k : Nat) : Keeping i (connectApp i k) := by
  intro s₀ s hs
  refine Task.safe_got ?_
  by_cases hserver : (s.chatServerState.get? k).isSome = true
  · rw [if_pos hserver]
    exact (permits i).keeping_ensureBridge s₀ s hs
  · rw [if_neg hserver]
    cases s.vault.getChatServerIdentity with
    | none => exact hs
    | some identity =>
      have hstart := keeping_startChatServer (i := i) k identity s.vault.getActiveDeviceKey
      exact (hstart.called (owns i)).bind (fun _ => (permits i).keeping_ensureBridge) s₀ s hs

theorem keeping_connect : Keeping i (connect i) := by
  intro s₀ s hs
  refine Task.safe_got ?_
  by_cases hlocked : (s.vault.activeAccount.filter fun active => active.accountId ≠ "").isNone = true
  · rw [if_pos hlocked]
    exact hs
  rw [if_neg hlocked]
  cases s.chatApp with
  | some k => exact keeping_connectApp k s₀ s hs
  | none =>
    by_cases hstart : s.startRezChat = false
    · simp only [if_pos hstart]
      exact hs
    · simp only [if_neg hstart]
      refine (permits i).keeping_made.bind (fun k s₀ s hs => ?_) s₀ s hs
      refine Task.safe_modified (keeping_connectApp k s₀ _ (fine_of fun hsteady => ?_))
      have hcrossed := (or_eq_false_iff.1 hsteady.crossed).1
      exact pumping_hold hsteady (hs.1.1 ⟨hcrossed, hsteady.undercut, hsteady.missed⟩)

/-- Where the window subscribes, or has a handle, it goes on with one. -/
theorem safe_attachBusEvents (hs : Fine i s₀ s) :
    Safe eventDiscipline i (fun _ s₀ s => Fine i s₀ s ∧ s.busEventUnsub.isSome = true) (Fine i)
      attachBusEvents s₀ s := by
  refine Task.safe_got ?_
  by_cases hunsub : s.busEventUnsub.isSome = true
  · rw [if_pos hunsub]
    exact ⟨hs, hunsub⟩
  · rw [if_neg hunsub]
    have hnone := not_isSome_iff_eq_none.1 hunsub
    cases hb : s.busBridge with
    | none => exact hs
    | some b =>
      refine ⟨fine_of fun hsteady => ?_, rfl⟩
      have hp := hs.1.1 ⟨hsteady.crossed, hsteady.undercut, hsteady.missed⟩
      exact pumping_subscribeEvents hp hnone hb

/-- A connect of the window. -/
theorem keeping_windowConnect : Keeping i (do
    called (connect i)
    attachBusEvents
    modify connectDone) := by
  refine (keeping_connect.called (owns i)).bind fun _ s₀ s hs => ?_
  refine Task.safe_seq (safe_attachBusEvents hs) fun _ s₀ s h => ?_
  refine fine_of fun hsteady => pumping_connectDone hsteady (h.1.1.1 ?_) h.2
  exact ⟨hsteady.crossed, hsteady.undercut, (or_eq_false_iff.1 hsteady.missed).1⟩

/-! ### The calls of the window -/

theorem keeping_ofVault {α : Type} (t : Task Vault α) : Keeping i (ofVault t) := by
  intro s₀ s hs
  refine Task.safe_seq (safe_zoom (owns i) (fun v s₀ s h => ?_) hs) fun _ _ _ h => h
  exact fine_of_same h (fun hs => ⟨hs.1, hs.2, hs.3⟩) rfl rfl rfl rfl rfl rfl

theorem keeping_entered {t : Task Supervisor Unit} (ht : Keeping i t) : Keeping i (entered i t) := by
  have hleave : Keeping i (Task.modify fun s => s.leave i) := fun _ _ hs =>
    fine_of_same hs (fun hs => ⟨hs.1, hs.2, hs.3⟩) rfl rfl rfl rfl rfl rfl
  have hhandler : Keeping i (do
      modify fun s => s.leave i
      (Task.failed : Task Supervisor Unit)) := hleave.bind fun _ _ _ h => h
  intro s₀ s hs
  refine Task.safe_modified ((ht.tryCatch hhandler).bind (fun _ => hleave) s₀ _ ?_)
  exact fine_of_same hs (fun hs => ⟨hs.1, hs.2, hs.3⟩) rfl rfl rfl rfl rfl rfl

end Calls

section Runs

variable {β : Type} (sdk : Sdk) (aead : BackupAead β)

theorem keeping_task (c : DesktopCall) (i : Nat) : Keeping i (c.task sdk aead i) := by
  cases c with
  | unlock safe call => exact keeping_entered (keeping_ofVault _)
  | importBackup safe call =>
    exact keeping_entered (keeping_disconnectFirst.bind fun _ => keeping_ofVault _)
  | changePassword safe call =>
    exact keeping_entered (keeping_disconnectFirst.bind fun _ => keeping_ofVault _)
  | connect => exact keeping_entered keeping_windowConnect
  | disconnect =>
    intro s₀ s hs
    refine Task.safe_modified (safe_disconnect fun hsteady => ?_)
    exact closable_detachBusEvents
      (closable_of_pumping (hs.1.1 (steady_of_detachBusEvents hsteady)))
  | lock statusThrows => exact keeping_lock statusThrows

/-- A task that keeps the law is calm. -/
theorem calm_of_keeping {i : Nat} {t : Task Supervisor Unit} {s : Supervisor} (h : Keeping i t)
    (hs : eventDiscipline.inv s) : t.Calm eventDiscipline i s s :=
  Task.Safe.mono (fun _ _ _ h => h.1) (fun _ _ h => h.1) (h s s (fine_of hs))

theorem allowed (a : DesktopAct) : (a.toStep sdk aead).Allowed eventDiscipline := by
  cases a with
  | call c => exact fun i s hs => calm_of_keeping (keeping_task sdk aead c i) hs
  | autoLock => exact fun i s hs => calm_of_keeping keeping_autoLock hs
  | resume i r => trivial
  | tick clockMs =>
    intro s hs
    refine ⟨fun hsteady => ?_, fun _ => trivial⟩
    have hp := hs ⟨hsteady.crossed, hsteady.undercut, hsteady.missed⟩
    exact pumping_of_same hp rfl rfl rfl rfl rfl rfl
  | crash => trivial

/-- A desktop that was just started sends nothing. -/
theorem pumping_of_fresh {s : Supervisor} (hbridge : s.busBridge = none)
    (hunsub : s.busEventUnsub = none) (hsubs : s.subscriptions = empty)
    (hsevered : s.severed = false) (hconnected : s.connected = false) : s.Pumping := by
  refine ⟨⟨fun b hb => ?_, fun _ => hsevered, fun _ => ⟨hsubs, fun b hb => ?_⟩, fun u hu => ?_⟩,
    fun h => ?_⟩
  · rw [hbridge] at hb
    cases hb
  · rw [hbridge] at hb
    cases hb
  · rw [hunsub] at hu
    cases hu
  · rw [hconnected] at h
    cases h

end Runs

/-- Over the one subscription the window is sent the events of one server. -/
theorem followsLive {s : Supervisor} (h : s.Pumping) : s.FollowsLive := by
  have hone : ∀ u x y : Nat, ((empty : OrdMap Nat Nat).set u x).values.count y =
      if x = y then 1 else 0 := fun u x y => by
    rw [show ((empty : OrdMap Nat Nat).set u x).values = [x] from rfl, List.count_singleton]
    simp only [beq_iff_eq]
  refine ⟨fun hconnected => ?_, fun y hy => ?_⟩
  · obtain ⟨hsome, hsevered⟩ := h.live hconnected
    obtain ⟨u, hu⟩ := isSome_iff_exists.1 hsome
    obtain ⟨b, hb, -, hsubs⟩ := h.wired.attached u hu hsevered
    refine ⟨b.server, h.wired.bridge b hb, ?_⟩
    rw [deliveries, hsubs, hone, if_pos rfl]
  · by_cases hsilent : s.busEventUnsub = none ∨ s.severed = true
    · rw [deliveries, (h.wired.silent hsilent).1]
      rfl
    · obtain ⟨hsome, hsevered⟩ := not_or.1 hsilent
      obtain ⟨u, hu⟩ := ne_none_iff_exists'.1 hsome
      obtain ⟨b, hb, -, hsubs⟩ := h.wired.attached u hu (eq_false_of_not_eq_true hsevered)
      have hne : b.server ≠ y := fun hby => hy (hby ▸ h.wired.bridge b hb)
      rw [deliveries, hsubs, hone, if_neg hne]

end EventPump

/-! ## Every run -/

/-- **The events follow the server that lives** in every run in which no connect succeeds with a
handle of a bridge that was closed, no server is stopped under the bridge to it, and none is put
where another one was. -/
theorem run_followsLive {β : Type} (sdk : Sdk) (aead : BackupAead β) (vault : Vault)
    (acts : List DesktopAct) (h : (desktopAfter sdk aead vault acts).Steady) :
    (desktopAfter sdk aead vault acts).FollowsLive := by
  have hinv : EventPump.eventDiscipline.inv (desktopAfter sdk aead vault acts) := by
    have hrun := Runs.run_map (Pool.step restart) (DesktopAct.toStep sdk aead)
      (Pool.idle (fresh vault)) acts
    rw [show desktopAfter sdk aead vault acts = _ from congrArg Pool.state hrun.symm]
    refine Pool.run_inv (fun s _ _ => EventPump.pumping_of_fresh rfl rfl rfl rfl rfl)
      (fun _ => EventPump.pumping_of_fresh rfl rfl rfl rfl rfl) _ fun a ha => ?_
    obtain ⟨act, _, rfl⟩ := List.mem_map.1 ha
    exact EventPump.allowed sdk aead act
  exact EventPump.followsLive (hinv h)

/-- A window connects, locks, and drops its handle before it connects again. -/
def reconnected : List DesktopAct :=
  connectedAndLocked ++ .call .disconnect :: turns 3 1 ++ unlockAnn :: turns 4 8 ++
    .call .connect :: turns 5 6

set_option maxRecDepth 2000 in
theorem run_followsLive_reconnected :
    (desktopAfter plainSdk noBackups soleVault reconnected).connected = true ∧
      (desktopAfter plainSdk noBackups soleVault reconnected).FollowsLive :=
  ⟨rfl, run_followsLive plainSdk noBackups soleVault reconnected ⟨rfl, rfl, rfl⟩⟩

/-- It connects again and did not drop it. -/
def reconnectedAfterLock : List DesktopAct :=
  connectedAndLocked ++ unlockAnn :: turns 3 8 ++ .call .connect :: turns 4 6

set_option maxRecDepth 2000 in
/-- **Nothing after a lock.** The second connect succeeds, a chat server runs, and the window is sent
none of its events. -/
theorem nothing_after_lock :
    (desktopAfter plainSdk noBackups soleVault reconnectedAfterLock).chatServer = some 3 ∧
      (desktopAfter plainSdk noBackups soleVault reconnectedAfterLock).deliveries 3 = 0 ∧
      ¬(desktopAfter plainSdk noBackups soleVault reconnectedAfterLock).FollowsLive := by
  refine ⟨rfl, rfl, fun h => ?_⟩
  obtain ⟨x, hx, hone⟩ := h.1 rfl
  obtain rfl := some_inj.1 hx
  exact absurd hone (by decide)

end RezChat.Desktop
