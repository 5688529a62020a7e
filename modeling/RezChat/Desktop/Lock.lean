/-
The lock of the desktop.

A lock is to be a boundary: once it has been reported as complete, and nothing was asked for since
that unlocks the vault or starts a server, nothing is unlocked and no chat server runs. The
supervisor does not see to that. It takes the runtime to be down when the app has no chat server in
its hand, and that is so too while one is being started, while one is being stopped, and after a
stop that failed. And a call that is under way unlocks the vault behind the lock
(`unlocked_behind_lock`).

It is a boundary in every run in which none of this happens (`run_lockHolds`): no lock overlaps
with such a call from the moment in which it locks the vault, or is done before a stop of another
call is, no server runs on after its stop or its start failed, and none is put where another one
was.
-/
import RezChat.Desktop.Supervisor

set_option autoImplicit false

namespace RezChat.Desktop

open List Option RezChat.Task Supervisor Bool

/-! ## The law -/

/-- A lock that was reported as complete, and that nothing was asked for after, holds: no account
is unlocked, and no chat server runs. -/
def Supervisor.LockHolds (s : Supervisor) : Prop :=
  s.secured = true → s.vault.activeAccount = none ∧ s.running = []

/-- Nothing of what breaks the law has happened. -/
structure Supervisor.Orderly (s : Supervisor) : Prop where
  crossed : s.crossed = false
  leaked : s.leaked = false
  raced : s.raced = false

/-- What holds of an orderly desktop: nothing is unlocked while a lock is not done, or after it, and
every server that runs is the app's, or is being stopped, or was started by a call that is under
way. -/
structure Supervisor.Guarded (s : Supervisor) : Prop where
  locked : s.locking ≠ [] ∨ s.secured = true → s.entering = [] ∧ s.vault.activeAccount = none
  secured : s.secured = true → s.running = []
  held : ∀ x ∈ s.running, s.chatServer = some x ∨ x ∈ s.stopping ∨ ∃ i, (i, x) ∈ s.launched
  launched : ∀ i x, (i, x) ∈ s.launched → i ∈ s.entering

/-- What is of a call is as it was. -/
structure SameOwn (i : Nat) (s s' : Supervisor) : Prop where
  entering : i ∈ s'.entering ↔ i ∈ s.entering
  locking : i ∈ s'.locking ↔ i ∈ s.locking
  launched : ∀ x, (i, x) ∈ s'.launched ↔ (i, x) ∈ s.launched

theorem SameOwn.refl (i : Nat) (s : Supervisor) : SameOwn i s s :=
  ⟨.rfl, .rfl, fun _ => .rfl⟩

theorem SameOwn.trans {i : Nat} {s s' s'' : Supervisor} (h : SameOwn i s s') (h' : SameOwn i s' s'') :
    SameOwn i s s'' :=
  ⟨h'.entering.trans h.entering, h'.locking.trans h.locking,
    fun x => (h'.launched x).trans (h.launched x)⟩

/-- What a call relies on: what went wrong is not forgotten, and what is its own stays. -/
structure Unhindered (i : Nat) (s s' : Supervisor) : Prop where
  orderly : s'.Orderly → s.Orderly
  own : SameOwn i s s'

def lockDiscipline : Discipline Supervisor where
  inv s := s.Orderly → s.Guarded
  rely := Unhindered
  refl i s := ⟨id, SameOwn.refl i s⟩
  trans h h' := ⟨fun ho => h.orderly (h'.orderly ho), h.own.trans h'.own⟩

/-! ## What the steps keep -/

section Writes

variable {s : Supervisor} {i k x : Nat}

/-- A change that takes nothing of any call away. -/
structure Neutral (s s' : Supervisor) : Prop where
  orderly : s'.Orderly → s.Orderly
  own : ∀ j, SameOwn j s s'
  kept : s'.Orderly → s.Guarded → s'.Guarded

/-- A change of nothing that the law speaks of. -/
theorem neutral_of_same {s' : Supervisor} (hvault : s'.vault.activeAccount = s.vault.activeAccount)
    (hserver : s'.chatServer = s.chatServer) (hrunning : s'.running = s.running)
    (hentering : s'.entering = s.entering) (hlocking : s'.locking = s.locking)
    (hlaunched : s'.launched = s.launched) (hstopping : s'.stopping = s.stopping)
    (hsecured : s'.secured = s.secured) (hcrossed : s'.crossed = s.crossed)
    (hleaked : s'.leaked = s.leaked) (hraced : s'.raced = s.raced) : Neutral s s' := by
  refine ⟨fun h => ?_, fun j => ?_, fun _ h => ?_⟩
  · exact ⟨hcrossed ▸ h.crossed, hleaked ▸ h.leaked, hraced ▸ h.raced⟩
  · refine ⟨?_, ?_, ?_⟩
    · rw [hentering]
    · rw [hlocking]
    · rw [hlaunched]
      exact fun _ => .rfl
  · refine ⟨?_, ?_, ?_, ?_⟩
    · rw [hlocking, hsecured, hentering, hvault]
      exact h.locked
    · rw [hsecured, hrunning]
      exact h.secured
    · rw [hrunning, hserver, hstopping, hlaunched]
      exact h.held
    · rw [hlaunched, hentering]
      exact h.launched

theorem neutral_closeBridge (s : Supervisor) : Neutral s s.closeBridge := by
  rw [closeBridge]
  cases s.busBridge with
  | none => exact neutral_of_same rfl rfl rfl rfl rfl rfl rfl rfl rfl rfl rfl
  | some bridge => exact neutral_of_same rfl rfl rfl rfl rfl rfl rfl rfl rfl rfl rfl

theorem neutral_detachBusEvents (s : Supervisor) : Neutral s s.detachBusEvents := by
  rw [detachBusEvents]
  cases s.busEventUnsub with
  | none => exact neutral_of_same rfl rfl rfl rfl rfl rfl rfl rfl rfl rfl rfl
  | some unsub => exact neutral_of_same rfl rfl rfl rfl rfl rfl rfl rfl rfl rfl rfl

/-- A server that runs on is a thing that goes wrong. -/
theorem neutral_of_leaked {s' : Supervisor} (hleaked : s'.leaked = true)
    (hentering : s'.entering = s.entering) (hlocking : s'.locking = s.locking)
    (hlaunched : s'.launched = s.launched) : Neutral s s' := by
  have hnot : ¬s'.Orderly := fun h => absurd (hleaked.symm.trans h.leaked) (by decide)
  refine ⟨fun h => absurd h hnot, fun j => ?_, fun h => absurd h hnot⟩
  exact ⟨by rw [hentering], by rw [hlocking], by rw [hlaunched]; exact fun _ => .rfl⟩

/-- The app's server is from now on one that is being stopped. -/
theorem neutral_detachChatServer (h : s.chatServerState.get? k = some x) :
    Neutral s (s.detachChatServer k x) := by
  refine ⟨fun ho => ⟨ho.crossed, ho.leaked, ho.raced⟩, fun _ => ⟨.rfl, .rfl, fun _ => .rfl⟩, fun _ hs => ?_⟩
  refine ⟨hs.locked, hs.secured, fun y hy => ?_, hs.launched⟩
  rcases hs.held y hy with hserver | hstopping | hlaunched
  · rw [chatServer, bind_eq_some_iff] at hserver
    obtain ⟨app, happ, hget⟩ := hserver
    by_cases hk : app = k
    · rw [hk, h] at hget
      rw [← some_inj.1 hget]
      exact .inr (.inl mem_cons_self)
    · refine .inl ?_
      show s.chatApp.bind (s.chatServerState.delete k).get? = some y
      rw [happ, bind_some, OrdMap.get?_delete_of_ne _ hk]
      exact hget
  · exact .inr (.inl (mem_cons_of_mem x hstopping))
  · exact .inr (.inr hlaunched)

theorem neutral_stopped (s : Supervisor) (x : Nat) : Neutral s (s.stopped x) := by
  refine ⟨fun ho => ⟨ho.crossed, ho.leaked, ho.raced⟩, fun _ => ⟨.rfl, .rfl, fun _ => .rfl⟩, fun _ hs => ?_⟩
  refine ⟨hs.locked, fun hsecured => ?_, fun y hy => ?_, hs.launched⟩
  · show s.running.filter _ = []
    rw [hs.secured hsecured]
    rfl
  · obtain ⟨hy, hne⟩ := mem_filter.1 hy
    rcases hs.held y hy with hserver | hstopping | hlaunched
    · exact .inl hserver
    · exact .inr (.inl ((mem_erase_of_ne (of_decide_eq_true hne)).2 hstopping))
    · exact .inr (.inr hlaunched)

/-- A new app is held in place of none. -/
theorem neutral_hold (s : Supervisor) (k : Nat) : Neutral s (s.hold k) := by
  refine ⟨fun ho => ⟨(or_eq_false_iff.1 ho.crossed).1, ho.leaked, ho.raced⟩,
    fun _ => ⟨.rfl, .rfl, fun _ => .rfl⟩, fun ho hs => ?_⟩
  refine ⟨hs.locked, hs.secured, fun y hy => ?_, hs.launched⟩
  have hnone : s.chatApp = none := by simpa using (or_eq_false_iff.1 ho.crossed).2
  rcases hs.held y hy with hserver | hrest
  · rw [chatServer, hnone] at hserver
    cases hserver
  · exact .inr hrest

/-- The app is let go when it has no server. -/
theorem neutral_giveUp (s : Supervisor) : Neutral s s.giveUp := by
  refine ⟨fun ho => ⟨(or_eq_false_iff.1 ho.crossed).1, ho.leaked, ho.raced⟩,
    fun _ => ⟨.rfl, .rfl, fun _ => .rfl⟩, fun ho hs => ?_⟩
  refine ⟨hs.locked, hs.secured, fun y hy => ?_, hs.launched⟩
  have hnone : s.chatServer = none := by simpa using (or_eq_false_iff.1 ho.crossed).2
  rcases hs.held y hy with hserver | hrest
  · rw [hnone] at hserver
    cases hserver
  · exact .inr hrest

/-- While a call is under way that may do so, the vault may be changed. -/
theorem neutral_vault (hi : i ∈ s.entering) (vault : Vault) : Neutral s { s with vault := vault } := by
  refine ⟨fun ho => ⟨ho.crossed, ho.leaked, ho.raced⟩, fun _ => ⟨.rfl, .rfl, fun _ => .rfl⟩, fun _ hs => ?_⟩
  refine ⟨fun hlocked => ?_, hs.secured, hs.held, hs.launched⟩
  rw [(hs.locked hlocked).1] at hi
  exact absurd hi not_mem_nil

end Writes

/-! ## What the calls keep

Most of what a call does takes nothing of any call away. It may be done whatever the call itself has
to keep up. -/

section Calls

variable {i : Nat} {K : Supervisor → Prop} {s₀ s : Supervisor}

/-- A fact of a call's own. -/
def Own (i : Nat) (K : Supervisor → Prop) : Prop := ∀ s s', SameOwn i s s' → K s → K s'

theorem Own.owns (hK : Own i K) : lockDiscipline.Owns i K := fun s s' h => hK s s' h.own

/-- The segment is settled, and the call's own fact holds. -/
abbrev Fine (i : Nat) (K : Supervisor → Prop) : Supervisor → Supervisor → Prop :=
  lockDiscipline.Fine i K

theorem fine_neutral (hK : Own i K) (h : Fine i K s₀ s) {s' : Supervisor} (hn : Neutral s s') :
    Fine i K s₀ s' :=
  h.changed (fun hs ho => hn.kept ho (hs (hn.orderly ho))) (fun j _ => ⟨hn.orderly, hn.own j⟩)
    (hK s s' (hn.own i))

/-- Whether the task returns or fails, the call's own fact holds. -/
abbrev Keeping (i : Nat) (K : Supervisor → Prop) {α : Type} (t : Task Supervisor α) : Prop :=
  Task.Keeping lockDiscipline i K t

section

variable (hK : Own i K)
include hK

/-- Servers are stopped without a regard to what else is under way. -/
theorem Own.permits : Permits lockDiscipline i K where
  owns := hK.owns
  numbered _ _ h := fine_neutral hK h
    (neutral_of_same rfl rfl rfl rfl rfl rfl rfl rfl rfl rfl rfl)
  detached _ _ _ _ hget h := fine_neutral hK h (neutral_detachChatServer hget)
  stopped _ s x h := fine_neutral hK h (neutral_stopped s x)
  leaked _ _ _ h := fine_neutral hK h (neutral_of_leaked rfl rfl rfl rfl)
  appStopped _ _ _ h := fine_neutral hK h
    (neutral_of_same rfl rfl rfl rfl rfl rfl rfl rfl rfl rfl rfl)
  givenUp _ s h := fine_neutral hK h (neutral_giveUp s)
  bridged _ _ _ _ _ h := fine_neutral hK h
    (neutral_of_same rfl rfl rfl rfl rfl rfl rfl rfl rfl rfl rfl)

theorem keeping_disconnect : Keeping i K disconnect := by
  intro s₀ s hs
  have h := fine_neutral hK hs (neutral_closeBridge s)
  refine Task.safe_modified (Task.safe_got ?_)
  cases s.closeBridge.chatApp with
  | none => exact h
  | some k => exact (hK.permits.keeping_stopChatServer k).called hK.owns _ _ h

theorem keeping_disconnectFirst : Keeping i K disconnectFirst := by
  intro s₀ s hs
  refine Task.safe_got ?_
  by_cases happ : s.chatApp.isSome = true
  · rw [if_pos happ]
    exact (keeping_disconnect hK).called hK.owns s₀ s hs
  · rw [if_neg happ]
    exact hs

theorem keeping_attachBusEvents : Keeping i K attachBusEvents := by
  intro s₀ s hs
  refine Task.safe_got ?_
  by_cases hunsub : s.busEventUnsub.isSome = true
  · rw [if_pos hunsub]
    exact hs
  · rw [if_neg hunsub]
    cases s.busBridge with
    | none => exact hs
    | some bridge => exact fine_neutral hK hs (neutral_of_same rfl rfl rfl rfl rfl rfl rfl rfl rfl rfl rfl)

end

/-! ### Locking -/

/-- The call has locked the vault and is not done. -/
def Locking (i : Nat) (s : Supervisor) : Prop := i ∈ s.locking

theorem own_locking (i : Nat) : Own i (Locking i) := fun _ _ h hs => h.locking.2 hs

theorem own_true (i : Nat) : Own i fun _ => True := fun _ _ _ _ => trivial

/-- While a call is under way that may unlock the vault, locking it is what goes wrong. -/
theorem fine_lockVault (h : Fine i K s₀ s) : Fine i (Locking i) s₀ (s.lockVault i) := by
  refine h.changed (fun hs ho => ?_) (fun j hj => ⟨fun ho => ?_, ?_⟩) fun _ => mem_cons_self
  · obtain ⟨hraced, hentering⟩ := or_eq_false_iff.1 ho.raced
    have hg := hs ⟨ho.crossed, ho.leaked, hraced⟩
    have hnone : s.entering = [] := by simpa using hentering
    exact ⟨fun _ => ⟨hnone, rfl⟩, hg.secured, hg.held, hg.launched⟩
  · exact ⟨ho.crossed, ho.leaked, (or_eq_false_iff.1 ho.raced).1⟩
  · refine ⟨.rfl, ?_, fun _ => .rfl⟩
    exact ⟨fun h => (mem_cons.1 h).resolve_left hj, mem_cons_of_mem i⟩

/-- Whether a number is in a list that another one is taken from. -/
theorem mem_filter_ne_iff {j : Nat} (hj : j ≠ i) (l : List Nat) :
    j ∈ l.filter (· ≠ i) ↔ j ∈ l := by
  simp [hj]

section

variable (h : Fine i (Locking i) s₀ s)
include h

theorem fine_lockFailed (lockIncomplete : Bool) :
    Fine i (fun _ => True) s₀ (s.lockFailed i lockIncomplete) := by
  refine h.changed (fun hs ho => ?_) (fun j hj => ⟨fun ho => ?_, ?_⟩) fun _ => trivial
  · have hg := hs ⟨ho.crossed, ho.leaked, ho.raced⟩
    refine ⟨fun hlocked => ?_, hg.secured, hg.held, hg.launched⟩
    refine hg.locked (hlocked.imp (fun hne hnil => hne ?_) id)
    show s.locking.filter _ = []
    rw [hnil]
    rfl
  · exact ⟨ho.crossed, ho.leaked, ho.raced⟩
  · exact ⟨.rfl, mem_filter_ne_iff hj s.locking, fun _ => .rfl⟩

/-- A lock is done when the app has no chat server in its hand. Nothing else runs then: no call is
under way that could have started one, and none is being stopped. -/
theorem fine_secure (hdown : s.runtimeIsDown = true) :
    Fine i (fun _ => True) s₀ (s.secure i) := by
  have hlocking : s.locking ≠ [] := ne_nil_of_mem h.2
  refine h.changed (fun hs ho => ?_) (fun j hj => ⟨fun ho => ?_, ?_⟩) fun _ => trivial
  · obtain ⟨hraced, hstopping⟩ := or_eq_false_iff.1 ho.raced
    have hg := hs ⟨ho.crossed, ho.leaked, hraced⟩
    obtain ⟨hentering, hvault⟩ := hg.locked (.inl hlocking)
    have hnostop : s.stopping = [] := by simpa using hstopping
    have hnoserver : s.chatServer = none := isNone_iff_eq_none.1 hdown
    refine ⟨fun _ => ⟨hentering, hvault⟩, fun _ => ?_, hg.held, hg.launched⟩
    refine eq_nil_iff_forall_not_mem.2 fun x hx => ?_
    rcases hg.held x hx with hserver | hstop | ⟨j, hlaunched⟩
    · rw [hnoserver] at hserver
      cases hserver
    · rw [hnostop] at hstop
      exact not_mem_nil hstop
    · have hj := hg.launched j x hlaunched
      rw [hentering] at hj
      exact not_mem_nil hj
  · exact ⟨ho.crossed, ho.leaked, (or_eq_false_iff.1 ho.raced).1⟩
  · exact ⟨.rfl, mem_filter_ne_iff hj s.locking, fun _ => .rfl⟩

theorem safe_finishLock :
    Safe lockDiscipline i (fun _ => Fine i fun _ => True) (Fine i fun _ => True) (finishLock i)
      s₀ s := by
  refine Task.safe_got ?_
  by_cases hdown : s.runtimeIsDown = true
  · rw [if_pos hdown]
    exact fine_secure h hdown
  · rw [if_neg hdown]
    have hforced := (own_locking i).permits.keeping_forceRuntimeShutdown.called (own_locking i).owns s₀ s h
    refine Task.safe_seq (Safe.mono (fun _ _ _ h => h) (fun _ _ h => ?_) hforced) ?_
    · exact h.mono fun _ => trivial
    · intro forced s₀ s h
      refine Task.safe_got ?_
      by_cases hdone : forced = true ∧ s.runtimeIsDown = true
      · rw [if_pos hdone]
        exact fine_secure h hdone.2
      · rw [if_neg hdone]
        exact fine_lockFailed h true

end

/-- A disconnect that is awaited, with its failure caught. -/
theorem keeping_tryDisconnect (hK : Own i K) :
    Keeping i K (tryCatch (pure ()) (called disconnect)) :=
  ((keeping_disconnect hK).called hK.owns).tryCatch (keeping_pure ())

theorem safe_lock (statusThrows : Bool) (h : Fine i (fun _ => True) s₀ s) :
    Safe lockDiscipline i (fun _ => Fine i fun _ => True) (Fine i fun _ => True)
      (lock i statusThrows) s₀ s := by
  refine Task.safe_seq (keeping_tryDisconnect (own_true i) s₀ s h) fun _ s₀ s h => ?_
  refine Task.safe_modified ?_
  cases statusThrows with
  | true => exact fine_lockFailed (fine_lockVault h) s.lockIncomplete
  | false => exact safe_finishLock (fine_lockVault h)

theorem safe_autoLock (h : Fine i (fun _ => True) s₀ s) :
    Safe lockDiscipline i (fun _ => Fine i fun _ => True) (Fine i fun _ => True) (autoLock i)
      s₀ s := by
  refine Task.safe_got ?_
  by_cases hactive : s.vault.activeAccount.isNone = true
  · rw [if_pos hactive]
    exact h
  · rw [if_neg hactive]
    refine Task.safe_modified (safe_paused (own_locking i).owns (fine_lockVault h) ?_)
    intro s h
    have hdisconnect := keeping_tryDisconnect (own_locking i) s s h
    show Safe _ i _ _ (_ >>= fun _ => finishLock i) s s
    refine Task.safe_seq (Task.Safe.mono (fun _ _ _ h => h) (fun _ _ h => ?_) hdisconnect) ?_
    · exact h.mono fun _ => trivial
    · exact fun _ _ _ h => safe_finishLock h

/-! ### Connecting -/

/-- The number of the call stands at no server that is being started. -/
def Unused (i : Nat) (s : Supervisor) : Prop := ∀ x, (i, x) ∉ s.launched

/-- The call is under way, and has started no server that it has not attached. -/
def Free (i : Nat) (s : Supervisor) : Prop := i ∈ s.entering ∧ Unused i s

/-- The call is under way, and there is at most the one server that it has yet to attach. -/
def Carries (i x : Nat) (s : Supervisor) : Prop :=
  i ∈ s.entering ∧ ∀ y, (i, y) ∈ s.launched → y = x

theorem own_unused (i : Nat) : Own i (Unused i) :=
  fun _ _ h hs x hx => hs x ((h.launched x).1 hx)

theorem own_free (i : Nat) : Own i (Free i) :=
  fun s s' h hs => ⟨h.entering.2 hs.1, own_unused i s s' h hs.2⟩

theorem own_carries (i x : Nat) : Own i (Carries i x) :=
  fun _ _ h hs => ⟨h.entering.2 hs.1, fun y hy => hs.2 y ((h.launched y).1 hy)⟩

theorem fine_enter (h : Fine i (Unused i) s₀ s) : Fine i (Free i) s₀ (s.enter i) := by
  refine h.changed (fun hs ho => ?_) (fun j hj => ⟨fun ho => ?_, ?_⟩)
    fun hs => ⟨mem_cons_self, hs⟩
  · obtain ⟨hraced, hlocking⟩ := or_eq_false_iff.1 ho.raced
    have hg := hs ⟨ho.crossed, ho.leaked, hraced⟩
    have hnone : s.locking = [] := by simpa using hlocking
    refine ⟨fun hlocked => ?_, fun hsecured => Bool.noConfusion hsecured, hg.held, fun j x hx => ?_⟩
    · exact (hlocked.resolve_right false_ne_true hnone).elim
    · exact mem_cons_of_mem i (hg.launched j x hx)
  · exact ⟨ho.crossed, ho.leaked, (or_eq_false_iff.1 ho.raced).1⟩
  · refine ⟨?_, .rfl, fun _ => .rfl⟩
    exact ⟨fun h => (mem_cons.1 h).resolve_left hj, mem_cons_of_mem i⟩

/-- A call that carries no server may end. -/
theorem fine_leave (h : Fine i (Free i) s₀ s) : Fine i (fun _ => True) s₀ (s.leave i) := by
  have hfree := h.2.2
  refine h.changed (fun hs ho => ?_) (fun j hj => ⟨fun ho => ?_, ?_⟩) fun _ => trivial
  · have hg := hs ⟨ho.crossed, ho.leaked, ho.raced⟩
    refine ⟨fun hlocked => ⟨?_, (hg.locked hlocked).2⟩, hg.secured, hg.held, fun j x hx => ?_⟩
    · show s.entering.filter _ = []
      rw [(hg.locked hlocked).1]
      rfl
    · have hj : j ≠ i := fun hji => hfree x (hji ▸ hx)
      exact (mem_filter_ne_iff hj s.entering).2 (hg.launched j x hx)
  · exact ⟨ho.crossed, ho.leaked, ho.raced⟩
  · exact ⟨mem_filter_ne_iff hj s.entering, .rfl, fun _ => .rfl⟩

/-- A call that starts a server carries it. -/
theorem fine_launch (h : Fine i (Free i) s₀ s) (x : Nat) : Fine i (Carries i x) s₀ (s.launch i x) := by
  have hi := h.2.1
  refine h.changed (fun hs ho => ?_) (fun j hj => ⟨fun ho => ?_, ?_⟩) fun hs => ⟨hs.1, fun y hy => ?_⟩
  · have hg := hs ⟨ho.crossed, ho.leaked, ho.raced⟩
    refine ⟨hg.locked, fun hsecured => ?_, fun y hy => ?_, fun j y hy => ?_⟩
    · -- a desktop that is secured has no call under way
      rw [(hg.locked (.inr hsecured)).1] at hi
      exact absurd hi not_mem_nil
    · rcases mem_cons.1 hy with hyx | hy
      · exact .inr (.inr ⟨i, hyx ▸ mem_cons_self⟩)
      · refine (hg.held y hy).imp id (Or.imp id ?_)
        exact fun ⟨j, hj⟩ => ⟨j, mem_cons_of_mem _ hj⟩
    · rcases mem_cons.1 hy with hjy | hy
      · rw [(Prod.mk.inj hjy).1]
        exact hi
      · exact hg.launched j y hy
  · exact ⟨ho.crossed, ho.leaked, ho.raced⟩
  · refine ⟨.rfl, .rfl, fun y => ⟨fun hy => ?_, mem_cons_of_mem _⟩⟩
    exact (mem_cons.1 hy).resolve_left fun h => hj (Prod.mk.inj h).1
  · exact (mem_cons.1 hy).elim (fun h => (Prod.mk.inj h).2) fun hy => absurd hy (hs.2 y)

/-- It attaches the server to the app that is held, which has none. -/
theorem fine_attachChatServer {k x : Nat} (h : Fine i (Carries i x) s₀ s) :
    Fine i (Free i) s₀ (s.attachChatServer i k x) := by
  have hmem : ∀ j y, (j, y) ∈ s.launched.filter (· ≠ (i, x)) ↔ (j, y) ∈ s.launched ∧ (j, y) ≠ (i, x) :=
    fun j y => by rw [mem_filter, decide_eq_true_iff]
  refine h.changed (fun hs ho => ?_) (fun j hj => ⟨fun ho => ?_, ?_⟩) fun hs => ⟨hs.1, fun y hy => ?_⟩
  · obtain ⟨hcrossed, happ⟩ := or_eq_false_iff.1 ho.crossed
    obtain ⟨hcrossed, hnone⟩ := or_eq_false_iff.1 hcrossed
    have happ : s.chatApp = some k := by simpa using happ
    have hnone : s.chatServerState.get? k = none := by simpa using hnone
    have hg := hs ⟨hcrossed, ho.leaked, ho.raced⟩
    have hserver : (s.attachChatServer i k x).chatServer = some x := by
      show s.chatApp.bind (s.chatServerState.set k x).get? = some x
      rw [happ, bind_some, OrdMap.get?_set, if_pos rfl]
    refine ⟨hg.locked, hg.secured, fun y hy => ?_, fun j y hy => hg.launched j y ((hmem j y).1 hy).1⟩
    rcases hg.held y hy with hy | hy | ⟨j, hy⟩
    · rw [chatServer, happ, bind_some, hnone] at hy
      cases hy
    · exact .inr (.inl hy)
    · by_cases hown : (j, y) = (i, x)
      · rw [(Prod.mk.inj hown).2]
        exact .inl hserver
      · exact .inr (.inr ⟨j, (hmem j y).2 ⟨hy, hown⟩⟩)
  · refine ⟨?_, ho.leaked, ho.raced⟩
    exact (or_eq_false_iff.1 (or_eq_false_iff.1 ho.crossed).1).1
  · refine ⟨.rfl, .rfl, fun y => ?_⟩
    exact ⟨fun hy => ((hmem j y).1 hy).1, fun hy => (hmem j y).2 ⟨hy, fun h => hj (Prod.mk.inj h).1⟩⟩
  · obtain ⟨hy, hne⟩ := (hmem i y).1 hy
    exact hne (Prod.ext rfl (hs.2 y hy))

theorem safe_startServer (x : Nat) (h : Fine i (Free i) s₀ s) :
    Safe lockDiscipline i (fun _ => Fine i (Carries i x)) (Fine i (Free i)) (startServer i x)
      s₀ s := by
  refine safe_waited (own_free i).owns h fun r s h => ?_
  cases r with
  | ok => exact safe_paused (own_carries i x).owns (fine_launch h x) fun _ h => h
  | throws => exact safe_paused (own_free i).owns h fun _ h => h
  | throwsLate =>
    refine safe_paused (own_free i).owns (fine_neutral (own_free i) h ?_) fun _ h => h
    exact neutral_of_leaked rfl rfl rfl rfl

theorem keeping_startChatServer (k : Nat) (identity : ChatServerIdentity)
    (deviceKey : Option (String × KeyPair)) :
    Keeping i (Free i) (startChatServer i k identity deviceKey) := by
  intro s₀ s hs
  refine Task.safe_got ?_
  by_cases hserver : (s.chatServerState.get? k).isSome = true
  · rw [if_pos hserver]
    exact hs
  rw [if_neg hserver]
  by_cases hstartable : identity.startable deviceKey = false
  · rw [if_pos hstartable]
    exact hs
  rw [if_neg hstartable]
  refine Task.safe_seq ((own_free i).permits.keeping_made s₀ s hs) fun x s₀ s h => ?_
  exact Task.safe_seq (safe_startServer x h) fun _ s₀ s h => fine_attachChatServer h

theorem keeping_connectApp (k : Nat) : Keeping i (Free i) (connectApp i k) := by
  intro s₀ s hs
  refine Task.safe_got ?_
  by_cases hserver : (s.chatServerState.get? k).isSome = true
  · rw [if_pos hserver]
    exact (own_free i).permits.keeping_ensureBridge s₀ s hs
  · rw [if_neg hserver]
    cases s.vault.getChatServerIdentity with
    | none => exact hs
    | some identity =>
      have hstart := (keeping_startChatServer k identity s.vault.getActiveDeviceKey).called
        (own_free i).owns s₀ s hs
      exact Task.safe_seq hstart fun _ s₀ s h => (own_free i).permits.keeping_ensureBridge s₀ s h

theorem keeping_connect : Keeping i (Free i) (connect i) := by
  intro s₀ s hs
  refine Task.safe_got ?_
  by_cases hlocked : (s.vault.activeAccount.filter fun active => active.accountId ≠ "").isNone = true
  · rw [if_pos hlocked]
    exact hs
  rw [if_neg hlocked]
  cases s.chatApp with
  | some k => exact keeping_connectApp k s₀ s hs
  | none =>
    by_cases hstart : s.startRezChat = false
    · simp only [if_pos hstart]
      exact hs
    · simp only [if_neg hstart]
      refine Task.safe_seq ((own_free i).permits.keeping_made s₀ s hs) fun k s₀ s h => ?_
      exact Task.safe_modified (keeping_connectApp k _ _ (fine_neutral (own_free i) h (neutral_hold s k)))

theorem keeping_ofVault {α : Type} (t : Task Vault α) : Keeping i (Free i) (ofVault t) := by
  intro s₀ s hs
  refine Task.safe_seq (safe_zoom (own_free i).owns (fun v s₀ s h => ?_) hs) fun _ _ _ h => h
  exact fine_neutral (own_free i) h (neutral_vault h.2.1 v)

/-! ### The calls of the window -/

theorem safe_entered {t : Task Supervisor Unit} (ht : Keeping i (Free i) t)
    (h : Fine i (Unused i) s₀ s) :
    Safe lockDiscipline i (fun _ => Fine i fun _ => True) (Fine i fun _ => True) (entered i t)
      s₀ s := by
  have hbody := safe_caught (E := Fine i fun _ => True) (h := do
    modify fun s => s.leave i
    Task.failed) (ht _ _ (fine_enter h)) fun _ _ h => Task.safe_modified (fine_leave h)
  exact Task.safe_modified (Task.safe_seq hbody fun _ _ _ h => fine_leave h)

end Calls

section Runs

variable {β : Type} (sdk : Sdk) (aead : BackupAead β)

/-- Every call of the window is safe, whatever it is asked with. -/
theorem calm_task (c : DesktopCall) {i : Nat} {s : Supervisor} (hs : lockDiscipline.inv s)
    (hunused : Unused i s) : (c.task sdk aead i).Calm lockDiscipline i s s := by
  have hinit : Fine i (Unused i) s s := ⟨Discipline.settled_refl hs, hunused⟩
  refine Task.Safe.mono (R := fun _ => Fine i fun _ => True) (E := Fine i fun _ => True)
    (fun _ _ _ h => h.1) (fun _ _ h => h.1) ?_
  cases c with
  | unlock safe call => exact safe_entered (keeping_ofVault _) hinit
  | importBackup safe call =>
    refine safe_entered (fun s₀ s h => ?_) hinit
    exact Task.safe_seq (keeping_disconnectFirst (own_free i) s₀ s h) fun _ s₀ s h =>
      keeping_ofVault _ s₀ s h
  | changePassword safe call =>
    refine safe_entered (fun s₀ s h => ?_) hinit
    exact Task.safe_seq (keeping_disconnectFirst (own_free i) s₀ s h) fun _ s₀ s h =>
      keeping_ofVault _ s₀ s h
  | connect =>
    refine safe_entered (fun s₀ s h => ?_) hinit
    refine Task.safe_seq (keeping_connect.called (own_free i).owns s₀ s h) fun _ s₀ s h => ?_
    refine Task.safe_seq (keeping_attachBusEvents (own_free i) s₀ s h) fun _ s₀ s h => ?_
    exact fine_neutral (own_free i) h
      (neutral_of_same rfl rfl rfl rfl rfl rfl rfl rfl rfl rfl rfl)
  | disconnect =>
    have h : Fine i (fun _ => True) s s := hinit.mono fun _ => trivial
    refine Task.safe_modified (keeping_disconnect (own_true i) s _ ?_)
    exact fine_neutral (own_true i) h (neutral_detachBusEvents s)
  | lock statusThrows => exact safe_lock statusThrows (hinit.mono fun _ => trivial)

theorem DesktopAct.allowed (a : DesktopAct) :
    (a.toStep sdk aead).AllowedWhere lockDiscipline Unused := by
  cases a with
  | call c => exact fun i s hs hunused => calm_task sdk aead c hs hunused
  | autoLock =>
    intro i s hs _
    refine Safe.mono (fun _ _ _ h => h.1) (fun _ _ h => h.1) (safe_autoLock ?_)
    exact ⟨Discipline.settled_refl hs, trivial⟩
  | resume i r => trivial
  | tick clockMs =>
    intro s hs
    have hn : Neutral s { s with vault := { s.vault with clockMs := clockMs } } :=
      neutral_of_same rfl rfl rfl rfl rfl rfl rfl rfl rfl rfl rfl
    exact ⟨fun ho => hn.kept ho (hs (hn.orderly ho)), fun i => ⟨hn.orderly, hn.own i⟩⟩
  | crash => trivial

/-- A desktop that was just started is locked, and runs nothing. -/
theorem guarded_fresh (vault : Vault) : (fresh vault).Guarded where
  locked _ := ⟨rfl, rfl⟩
  secured _ := rfl
  held _ hx := absurd hx not_mem_nil
  launched _ _ hx := absurd hx not_mem_nil

theorem guarded_restart (s : Supervisor) : s.restart.Guarded where
  locked _ := ⟨rfl, rfl⟩
  secured _ := rfl
  held _ hx := absurd hx not_mem_nil
  launched _ _ hx := absurd hx not_mem_nil

/-- **A desktop lock is a boundary** in every run in which no lock overlaps with a call that uses the
vault or starts a server, no server runs on after its stop or its start failed, and none is put where
another one was. -/
theorem run_lockHolds (vault : Vault) (acts : List DesktopAct)
    (h : (desktopAfter sdk aead vault acts).Orderly) :
    (desktopAfter sdk aead vault acts).LockHolds := by
  have hinv : lockDiscipline.inv (desktopAfter sdk aead vault acts) := by
    have hrun := Runs.run_map (Pool.step restart) (DesktopAct.toStep sdk aead)
      (Pool.idle (fresh vault)) acts
    rw [show desktopAfter sdk aead vault acts = _ from congrArg Pool.state hrun.symm]
    refine Pool.run_inv_where (F := Unused) (fun i => (own_unused i).owns)
      (fun s _ => ⟨fun _ => guarded_restart s, fun i x hx => absurd hx not_mem_nil⟩)
      (fun _ => guarded_fresh vault) (fun i x hx => absurd hx not_mem_nil) _ fun a ha => ?_
    obtain ⟨act, _, rfl⟩ := List.mem_map.1 ha
    exact act.allowed sdk aead
  intro hsecured
  exact ⟨((hinv h).locked (.inr hsecured)).2, (hinv h).secured hsecured⟩

end Runs

/-! ## Runs in which a lock does not hold -/

/-- A call of the window goes on for some turns. -/
def turns (i n : Nat) : List DesktopAct := replicate n (.resume i .ok)

def unlockAnn : DesktopAct := .call (.unlock noSafeStorage ⟨none, "password", false⟩)

/-- The vault is unlocked, the chat server is started, and the desktop is locked. -/
def connectedAndLocked : List DesktopAct :=
  unlockAnn :: turns 0 8 ++ .call .connect :: turns 1 8 ++ .call (.lock false) :: turns 2 4

theorem run_lockHolds_connected :
    (desktopAfter plainSdk noBackups soleVault connectedAndLocked).secured = true ∧
      (desktopAfter plainSdk noBackups soleVault connectedAndLocked).LockHolds :=
  ⟨rfl, run_lockHolds plainSdk noBackups soleVault connectedAndLocked ⟨rfl, rfl, rfl⟩⟩

/-- The desktop is locked while an unlock is under way, which goes on afterwards. -/
def lockedWhileUnlocking : List DesktopAct :=
  unlockAnn :: turns 0 1 ++ .call (.lock false) :: turns 1 1 ++ turns 0 7

/-- It is locked while a chat server is being started. -/
def lockedWhileConnecting : List DesktopAct :=
  unlockAnn :: turns 0 8 ++ .call .connect :: turns 1 4 ++ .call (.lock false) :: turns 2 2 ++
    turns 1 4

/-- The chat server cannot be stopped. -/
def stopFailed : List DesktopAct :=
  unlockAnn :: turns 0 8 ++ .call .connect :: turns 1 8 ++
    .call (.lock false) :: .resume 2 .throws :: turns 2 4

/-- **Unlocked behind the lock.** A lock was reported as complete, and an account is unlocked, or a
chat server runs: where an unlock or a start was under way, and where the stop of the server failed,
since the app lets go of a server before it stops it. -/
theorem unlocked_behind_lock :
    ¬(desktopAfter plainSdk noBackups soleVault lockedWhileUnlocking).LockHolds ∧
      ¬(desktopAfter plainSdk noBackups soleVault lockedWhileConnecting).LockHolds ∧
      ¬(desktopAfter plainSdk noBackups soleVault stopFailed).LockHolds := by
  refine ⟨fun h => ?_, fun h => ?_, fun h => ?_⟩
  · exact absurd (congrArg Option.isNone (h rfl).1) (by decide)
  · exact absurd (h rfl).2 (by decide)
  · exact absurd (h rfl).2 (by decide)

end RezChat.Desktop
