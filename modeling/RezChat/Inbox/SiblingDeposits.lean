/-
What the siblings of a device deposit (the account-state branch of `processDeposit` in
`services/ServerPeerLinkProtocolService.js`).

An account-state deposit is sealed under a key that the devices of the account share, for the inbox
it is deposited to. One that does not open is counted, and when fifty were counted in ten seconds the
next ones are dropped without being looked at, so that junk costs little. But a deposit that is
dropped is reported `consumed`, as one is that does not open; so the pipeline reports it durable, it is
acknowledged, and the relay forgets it. Whoever can deposit junk therefore makes a device miss what
its siblings send it (`flooded_out`).

A genuine deposit is reported consumed only if it was handed to the apply step, in every run in which
each of them finds the limiter open, or was handed over before (`run_spared`). The argument is an
invariant of the processed log: a genuine deposit that is marked was handed over.

The clock, the SDK and what is done with every other deposit are parameters.
-/
import RezChat.Inbox.HandOver
import RezChat.Lib.Sealing

set_option autoImplicit false

namespace RezChat.Inbox

open Pipeline ProcessedLog Status List Subset
open Option Proc

/-- `ACCOUNT_STATE_OPEN_FAILURE_WINDOW_MS`. -/
def accountStateOpenFailureWindowMs : Int := 10000

/-- `ACCOUNT_STATE_OPEN_FAILURE_MAX`. -/
def accountStateOpenFailureMax : Nat := 50

/-- The secret of the account, with the inbox that a deposit is for (`accountStateAad`). -/
abbrev AccountStateKey : Type := String × String

/-- A message for the apply step. One of the account's own devices has no sender. -/
inductive UserMessage (μ : Type) where
  | accountState (mailboxId eventId plaintextB64 : String)
  | peer (message : μ)

/-- The limiter, the readings of the clock and the openings so far, the messages that were handed to
the apply step, which no step reads, and what else there is. -/
structure Protocol (μ ω : Type) where
  accountStateOpenFailures : Nat
  accountStateOpenWindowStartMs : Int
  readings : Nat
  openings : Nat
  handed : List (UserMessage μ)
  rest : ω

/-- What the service has to do with: the account's secret; the account-state envelope in a
ciphertext, if it is one; whether the SDK can open such an envelope, and which of its openings fails
although it should not; the clock; and the rest of the services. -/
structure Surroundings (μ ω : Type) where
  secret : String
  envelope : String → Option (Sealed AccountStateKey String)
  supported : Bool
  faulty : Nat → Bool
  clock : Nat → Int
  peer : Collaborators μ ω
  applyAccountState : String → Proc ω Unit
  wake : ω → ω

namespace Protocol

variable {μ ω : Type}

/-- The window is turned over, if it is past. -/
def turned (nowMs : Int) (p : Protocol μ ω) : Protocol μ ω :=
  if nowMs - p.accountStateOpenWindowStartMs > accountStateOpenFailureWindowMs then
    { p with accountStateOpenWindowStartMs := nowMs, accountStateOpenFailures := 0 }
  else p

/-- The next deposit is looked at. -/
def Open (env : Surroundings μ ω) (p : Protocol μ ω) : Prop :=
  (p.turned (env.clock p.readings)).accountStateOpenFailures < accountStateOpenFailureMax

instance (env : Surroundings μ ω) (p : Protocol μ ω) : Decidable (p.Open env) :=
  inferInstanceAs (Decidable (_ < _))

/-- A new process. -/
def restarted (env : Surroundings μ ω) (p : Protocol μ ω) : Protocol μ ω :=
  { p with
    accountStateOpenFailures := 0
    accountStateOpenWindowStartMs := 0
    rest := env.wake p.rest }

end Protocol

section Deposits

variable {μ ω : Type}

/-- What another part of the services does. -/
def elsewhere {α : Type} (p : Proc ω α) : Proc (Protocol μ ω) α :=
  zoom Protocol.rest (fun w p => { p with rest := w }) p

/-- The account-state branch of `processDeposit`. -/
def openAccountState (env : Surroundings μ ω) (id : DepositId) (e : Sealed AccountStateKey String) :
    Proc (Protocol μ ω) (Option (Status (UserMessage μ))) :=
  if env.supported = false then pure (some ⟨false, false, none⟩)
  else do
    modify fun p => { p.turned (env.clock p.readings) with readings := p.readings + 1 }
    let p ← get
    if accountStateOpenFailureMax ≤ p.accountStateOpenFailures then
      pure (some ⟨true, false, none⟩)
    else do
      modify fun p => { p with openings := p.openings + 1 }
      match if env.faulty p.openings = true then none else e.opened (env.secret, id.mailboxId) with
      | none => do
        modify fun p => { p with accountStateOpenFailures := p.accountStateOpenFailures + 1 }
        pure (some ⟨true, false, none⟩)
      | some openedBytes =>
        if openedBytes = "" then pure (some ⟨true, false, none⟩)
        else pure (some ⟨true, true, some (.accountState id.mailboxId id.dedupId openedBytes)⟩)

/-- `processDeposit`. -/
def decryptAny (env : Surroundings μ ω) (frame : Frame) :
    Proc (Protocol μ ω) (Option (Status (UserMessage μ))) :=
  if frameCiphertext frame = "" then pure (some ⟨false, false, none⟩)
  else
    match env.envelope (frameCiphertext frame) with
    | some e => openAccountState env (depositIdentity frame) e
    | none => do
      let status ← elsewhere (env.peer.decryptDeposit frame)
      pure (status.map fun s => ⟨s.consumed, s.decryptOk, s.userMessage.map .peer⟩)

/-- `applyUserMessage`, which is noted. -/
def applyAny (env : Surroundings μ ω) (message : UserMessage μ) : Proc (Protocol μ ω) Unit := do
  modify fun p => { p with handed := message :: p.handed }
  match message with
  | .accountState _ _ plaintextB64 => elsewhere (env.applyAccountState plaintextB64)
  | .peer message => elsewhere (env.peer.applyUserMessage message)

def services (env : Surroundings μ ω) : Collaborators (UserMessage μ) (Protocol μ ω) where
  decryptDeposit := decryptAny env
  applyUserMessage := applyAny env
  processDeposit frame := elsewhere (env.peer.processDeposit frame)
  limits := env.peer.limits

/-! ## Genuine deposits -/

/-- The deposit is sealed under the account's own key, for the inbox it is in. -/
def Genuine (env : Surroundings μ ω) (frame : Frame) (plaintext : String) : Prop :=
  frameCiphertext frame ≠ "" ∧ env.envelope (frameCiphertext frame) =
    some ⟨(env.secret, (depositIdentity frame).mailboxId), plaintext⟩

/-- The message that it opens to. -/
def siblingMessage (frame : Frame) (plaintext : String) : UserMessage μ :=
  .accountState (depositIdentity frame).mailboxId (depositIdentity frame).dedupId plaintext

/-- Under a key of the log there is one deposit. -/
def Fed (contents : String → String) (frame : Frame) : Prop :=
  (depositIdentity frame).dedupId ≠ "" →
    frameCiphertext frame = contents (logKey (depositIdentity frame))

/-- What the status of an account-state deposit says. -/
def Answers (env : Surroundings μ ω) (frame : Frame) (status : Option (Status (UserMessage μ))) :
    Prop :=
  ∀ e, frameCiphertext frame ≠ "" → env.envelope (frameCiphertext frame) = some e →
    ∀ s, status = some s → s.decryptOk = true →
      e.key = (env.secret, (depositIdentity frame).mailboxId) ∧
        s.userMessage = some (siblingMessage frame e.content)

variable {env : Surroundings μ ω} {frame : Frame} {p : Protocol μ ω}

/-- **The limiter does not forge.** What is reported as decrypted was opened with the key. -/
theorem openAccountState_answers {e : Sealed AccountStateKey String}
    (he : env.envelope (frameCiphertext frame) = some e) :
    wp (openAccountState env (depositIdentity frame) e)
      (fun status p' => Answers env frame status ∧ p'.handed = p.handed)
      (fun _ => False) (fun _ => False) p := by
  have refused : ∀ consumed, Answers env frame (some ⟨consumed, false, none⟩) := by
    rintro consumed e' - - s hs hok
    obtain rfl := some_inj.1 hs
    exact nomatch hok
  have hturned : ∀ nowMs, (p.turned nowMs).handed = p.handed := by
    intro nowMs
    unfold Protocol.turned
    split <;> rfl
  unfold openAccountState
  split
  · exact wp_pure ⟨refused false, rfl⟩
  · refine wp_bind (wp_modify (wp_bind (wp_get ?_)))
    split
    · exact wp_pure ⟨refused true, hturned _⟩
    · refine wp_bind (wp_modify ?_)
      split
      · exact wp_bind (wp_modify (wp_pure ⟨refused true, hturned _⟩))
      · rename_i openedBytes hopened
        split
        · exact wp_pure ⟨refused true, hturned _⟩
        · refine wp_pure ⟨?_, hturned _⟩
          rintro e' - he' s hs -
          obtain rfl := some_inj.1 (he.symm.trans he')
          obtain rfl := some_inj.1 hs
          split at hopened
          · exact nomatch hopened
          · obtain ⟨hkey, hcontent⟩ := Sealed.opened_eq_some_iff.1 hopened
            refine ⟨hkey.symm, ?_⟩
            rw [hcontent]
            rfl

/-- A genuine deposit that is looked at, and opens, is handed on. -/
theorem openAccountState_opens {plaintext : String} (hopen : p.Open env)
    (hfaulty : env.faulty p.openings = false) (hplaintext : plaintext ≠ "") :
    wp (openAccountState env (depositIdentity frame)
        ⟨(env.secret, (depositIdentity frame).mailboxId), plaintext⟩)
      (fun status _ => ∀ s, status = some s → s.consumed = true ∨ s.userMessage.isSome = true →
        s.userMessage = some (siblingMessage frame plaintext))
      (fun _ => False) (fun _ => False) p := by
  have hopenings : ∀ nowMs, (p.turned nowMs).openings = p.openings := by
    intro nowMs
    unfold Protocol.turned
    split <;> rfl
  unfold openAccountState
  split
  · refine wp_pure fun s hs hconsumed => ?_
    obtain rfl := some_inj.1 hs
    rcases hconsumed with hconsumed | hmessage
    · exact nomatch hconsumed
    · exact nomatch hmessage
  · refine wp_bind (wp_modify (wp_bind (wp_get ?_)))
    rw [if_neg (Nat.not_le.2 hopen)]
    refine wp_bind (wp_modify ?_)
    dsimp only
    rw [hopenings, hfaulty, if_neg Bool.false_ne_true, Sealed.opened_mk]
    dsimp only
    rw [if_neg hplaintext]
    refine wp_pure fun s hs _ => ?_
    obtain rfl := some_inj.1 hs
    rfl

theorem decryptAny_answers (frame : Frame) (p : Protocol μ ω) :
    wp (decryptAny env frame)
      (fun status p' => Answers env frame status ∧ p'.handed = p.handed)
      (fun p' => p'.handed = p.handed) (fun p' => p'.handed = p.handed) p := by
  unfold decryptAny
  by_cases hcipher : frameCiphertext frame = ""
  · rw [if_pos hcipher]
    exact wp_pure ⟨fun _ hne => absurd hcipher hne, rfl⟩
  · rw [if_neg hcipher]
    cases he : env.envelope (frameCiphertext frame) with
    | some e =>
      exact wp_mono (openAccountState_answers he) (fun _ _ h => h) (fun _ h => h.elim)
        fun _ h => h.elim
    | none =>
      refine wp_bind (wp_zoom (wp_any ?_ (fun _ => rfl) fun _ => rfl))
      exact fun _ _ => wp_pure ⟨fun e' _ he' => (nomatch he.symm.trans he'), rfl⟩

theorem decryptAny_opens {plaintext : String} (hgenuine : Genuine env frame plaintext)
    (hopen : p.Open env) (hfaulty : env.faulty p.openings = false) (hplaintext : plaintext ≠ "") :
    wp (decryptAny env frame)
      (fun status _ => ∀ s, status = some s → s.consumed = true ∨ s.userMessage.isSome = true →
        s.userMessage = some (siblingMessage frame plaintext))
      (fun _ => False) (fun _ => False) p := by
  unfold decryptAny
  rw [if_neg hgenuine.1, hgenuine.2]
  exact openAccountState_opens hopen hfaulty hplaintext

end Deposits

/-! ## What the pipeline keeps -/

section Pipeline

variable {μ ω : Type}

/-- The state of the pipeline, over the services. -/
abbrev SiblingState (μ ω : Type) : Type := PipelineState (UserMessage μ) (Protocol μ ω)

/-- The log and the buffer are as they were, and what was handed over was. -/
structure Onward (s s' : SiblingState μ ω) : Prop where
  log : s'.log = s.log
  pending : s'.pending = s.pending
  handed : s.world.handed ⊆ s'.world.handed

theorem Onward.refl (s : SiblingState μ ω) : Onward s s := ⟨rfl, rfl, Subset.refl _⟩

theorem Onward.trans {s s' s'' : SiblingState μ ω} (h : Onward s s') (h' : Onward s' s'') :
    Onward s s'' :=
  ⟨h'.log.trans h.log, h'.pending.trans h.pending, Subset.trans h.handed h'.handed⟩

/-- **The invariant.** A genuine deposit that is marked was handed over, as was what `M` says; and
what is retained is what its identity says. -/
structure Surviving (env : Surroundings μ ω) (contents : String → String) (M : UserMessage μ → Prop)
    (s : SiblingState μ ω) : Prop where
  marked : ∀ frame plaintext, (depositIdentity frame).dedupId ≠ "" → Fed contents frame →
    Genuine env frame plaintext → Marked s.log (depositIdentity frame) →
    siblingMessage frame plaintext ∈ s.world.handed
  buffered : Buffered (Fed contents) s.pending
  handed : ∀ m, M m → m ∈ s.world.handed

variable {env : Surroundings μ ω} {contents : String → String} {M : UserMessage μ → Prop}
  {s s₀ : SiblingState μ ω} {frame : Frame}

section

variable (h : Surviving env contents M s)
include h

theorem Surviving.onward {s' : SiblingState μ ω}
    (hs' : Onward s s') : Surviving env contents M s' := by
  refine ⟨?_, ?_, fun m hm => hs'.handed (h.handed m hm)⟩
  · intro frame plaintext hid hfed hgenuine hmarked
    rw [hs'.log] at hmarked
    exact hs'.handed (h.marked frame plaintext hid hfed hgenuine hmarked)
  · rw [hs'.pending]
    exact h.buffered

theorem Surviving.more {M' : UserMessage μ → Prop}
    (hM' : ∀ m, M' m → m ∈ s.world.handed) : Surviving env contents M' s :=
  ⟨h.marked, h.buffered, hM'⟩

theorem Surviving.setPending {pending : OrdMap String PendingEntry}
    (hpending : Buffered (Fed contents) pending) :
    Surviving env contents M { s with pending := pending } := ⟨h.marked, hpending, h.handed⟩

end

/-- If it is an account-state deposit it was opened, and handed over. -/
def HandedOver (env : Surroundings μ ω) (frame : Frame) (handed : List (UserMessage μ)) : Prop :=
  ∀ e, frameCiphertext frame ≠ "" → env.envelope (frameCiphertext frame) = some e →
    e.key = (env.secret, (depositIdentity frame).mailboxId) ∧ siblingMessage frame e.content ∈ handed

/-- Of two genuine deposits under one key of the log, one is the other. -/
theorem Surviving.withMarker (h : Surviving env contents M s) (hid : (depositIdentity frame).dedupId ≠ "")
    (hfed : Fed contents frame) (hover : HandedOver env frame s.world.handed) (nowMs : Int) :
    Surviving env contents M
      { s with log := withMarker s.log (depositIdentity frame) nowMs } := by
  refine ⟨?_, h.buffered, h.handed⟩
  intro frame' plaintext hid' hfed' hgenuine hmarked
  rcases marked_withMarker.1 hmarked with hkey | hold
  · have hcipher : frameCiphertext frame' = frameCiphertext frame := by
      rw [hfed' hid', hfed hid, hkey]
    obtain ⟨hne, henvelope⟩ := hgenuine
    rw [hcipher] at hne henvelope
    obtain ⟨hmailbox, hmem⟩ := hover _ hne henvelope
    have hsame : (depositIdentity frame').mailboxId = (depositIdentity frame).mailboxId :=
      congrArg Prod.snd hmailbox
    have hdedup : (depositIdentity frame').dedupId = (depositIdentity frame).dedupId := by
      rw [logKey, logKey, hsame] at hkey
      exact (String.append_right_inj _).1 hkey
    show siblingMessage frame' plaintext ∈ s.world.handed
    rw [siblingMessage, hsame, hdedup]
    exact hmem
  · exact h.marked frame' plaintext hid' hfed' hgenuine hold

theorem Surviving.withoutMarker (h : Surviving env contents M s) (id : DepositId) :
    Surviving env contents M { s with log := withoutMarker s.log id } :=
  ⟨fun frame plaintext hid hfed hgenuine hmarked =>
    h.marked frame plaintext hid hfed hgenuine (marked_withoutMarker hmarked),
    h.buffered, h.handed⟩

/-! ### What leaves the log alone -/

/-- Every end of a run of the part is onward from its start. -/
abbrev GoesOn {α : Type} (p : Proc (SiblingState μ ω) α) (s : SiblingState μ ω) : Prop :=
  wp p (fun _ => Onward s) (Onward s) (Onward s) s

theorem goesOn_inOutbox {α : Type} (p : Proc (OutboxKv (UserMessage μ)) α) (s : SiblingState μ ω) :
    GoesOn (inOutbox p) s :=
  wp_zoom (wp_any (fun _ _ => ⟨rfl, rfl, refl _⟩)
    (fun _ => ⟨rfl, rfl, refl _⟩) fun _ => ⟨rfl, rfl, refl _⟩)

theorem goesOn_elsewhere {α : Type} (p : Proc ω α) (s : SiblingState μ ω) :
    GoesOn (inWorld (elsewhere p)) s :=
  wp_zoom (wp_zoom (wp_any (fun _ _ => ⟨rfl, rfl, refl _⟩)
    (fun _ => ⟨rfl, rfl, refl _⟩) fun _ => ⟨rfl, rfl, refl _⟩))

theorem onward_noted (s : SiblingState μ ω) (e : Event) : Onward s (s.noted e) :=
  ⟨rfl, rfl, refl _⟩

/-- A part that follows another, from wherever that went. -/
theorem wp_onward {α : Type} {p : Proc (SiblingState μ ω) α} (h : ∀ s, GoesOn p s)
    (hs : Onward s₀ s) : wp p (fun _ => Onward s₀) (Onward s₀) (Onward s₀) s :=
  wp_mono (h s) (fun _ _ h => hs.trans h) (fun _ h => hs.trans h) fun _ h => hs.trans h

theorem goesOn_stageMessage (id : DepositId) (message : Option (UserMessage μ)) (nowMs : Int)
    (s : SiblingState μ ω) :
    wp (stageMessage id message nowMs) (fun _ => Onward s) (fun _ => False) (Onward s) s := by
  cases message with
  | none => exact wp_pure (Onward.refl s)
  | some m =>
    refine wp_tryCatch (wp_bind (wp_mono (goesOn_inOutbox _ s) ?_ ?_ fun _ h => h))
    · exact fun _ _ h => wp_pure h
    · exact fun _ h => wp_pure h

/-- What is applied is handed over, whatever becomes of it. -/
theorem applyAny_hands (m : UserMessage μ) (s : SiblingState μ ω) :
    wp (inWorld (applyAny env m)) (fun _ s' => Onward s s' ∧ m ∈ s'.world.handed)
      (fun s' => Onward s s' ∧ m ∈ s'.world.handed) (Onward s) s := by
  have hnoted : ∀ rest, Onward s
      { s with world := { s.world with handed := m :: s.world.handed, rest := rest } } := fun _ =>
    ⟨rfl, rfl, subset_cons_self _ _⟩
  have happlied : ∀ p : Proc ω Unit, wp (elsewhere (μ := μ) p)
      (fun _ w => Onward s { s with world := w } ∧ m ∈ w.handed)
      (fun w => Onward s { s with world := w } ∧ m ∈ w.handed)
      (fun w => Onward s { s with world := w }) { s.world with handed := m :: s.world.handed } :=
    fun p => wp_zoom (wp_any (fun _ _ => ⟨hnoted _, mem_cons_self⟩)
      (fun _ => ⟨hnoted _, mem_cons_self⟩) fun _ => hnoted _)
  refine wp_zoom (wp_bind (wp_modify ?_))
  cases m with
  | accountState _ _ plaintextB64 => exact happlied _
  | peer message => exact happlied _

theorem applyMessage_hands (id : DepositId) (message : Option (UserMessage μ)) (s : SiblingState μ ω) :
    wp (applyMessage (services env) id message)
      (fun _ s' => Onward s s' ∧ ∀ m, message = some m → m ∈ s'.world.handed) (fun _ => False)
      (Onward s) s := by
  cases message with
  | none => exact wp_pure ⟨Onward.refl s, nofun⟩
  | some m =>
    refine wp_tryCatch (wp_bind (wp_mono (applyAny_hands m s) ?_ ?_ fun _ h => h))
    · rintro - s₁ ⟨h₁, hmem⟩
      refine wp_bind (wp_note (wp_pure ⟨h₁.trans (onward_noted _ _), ?_⟩))
      rintro m' hm'
      obtain rfl := some_inj.1 hm'
      exact hmem
    · rintro s₁ ⟨h₁, hmem⟩
      refine wp_pure ⟨h₁, ?_⟩
      rintro m' hm'
      obtain rfl := some_inj.1 hm'
      exact hmem

theorem goesOn_applyPlaintext (applied : Bool) (s : SiblingState μ ω) :
    wp (applyPlaintext (services env) frame applied) (fun _ => Onward s) (fun _ => False)
      (Onward s) s := by
  refine wp_tryCatch (wp_bind (wp_mono (goesOn_elsewhere _ s) ?_ ?_ fun _ h => h))
  · exact fun _ _ h => wp_pure h
  · exact fun _ h => wp_pure h

theorem goesOn_markOutboxApplied (id : DepositId) (s : SiblingState μ ω) :
    wp (markOutboxApplied id) (fun _ => Onward s) (fun _ => False) (Onward s) s := by
  refine wp_bind (wp_note (wp_tryCatch (wp_mono
    (wp_onward (goesOn_inOutbox _) (onward_noted s _)) ?_ ?_ fun _ h => h)))
  · exact fun _ _ h => h
  · exact fun _ h => wp_pure h

theorem goesOn_recordOutboxFailure (id : DepositId) (nowMs : Int) (s : SiblingState μ ω) :
    wp (recordOutboxFailure id nowMs) (fun _ => Onward s) (fun _ => False) (Onward s) s := by
  refine wp_tryCatch (wp_mono (goesOn_inOutbox _ s) ?_ ?_ fun _ h => h)
  · exact fun _ _ h => h
  · exact fun _ h => wp_pure h

theorem goesOn_reconcile (id : DepositId) (nowMs : Int) (message staged userApplied : Bool)
    (s : SiblingState μ ω) :
    wp (reconcile id nowMs message staged userApplied) (fun _ => Onward s) (fun _ => False)
      (Onward s) s := by
  unfold reconcile
  split
  · split
    · exact goesOn_markOutboxApplied id s
    · exact wp_bind (wp_imp (goesOn_recordOutboxFailure id nowMs s)
        (fun _ _ h => wp_pure h))
  · exact wp_pure (Onward.refl s)

/-! ### One deposit -/

/-- A key of the log that is read is that of the deposit. -/
theorem logIds_eq {id : DepositId} (h : ids (depositIdentity frame).mailboxId
    (depositIdentity frame).dedupId = some id) : id = depositIdentity frame := by
  unfold ids at h
  rw [trim_mailboxId, trim_dedupId] at h
  split at h
  · exact nomatch h
  · exact (some_inj.1 h).symm

theorem markProcessed_survives (h : Surviving env contents M s) (hfed : Fed contents frame)
    (nowMs : Int) (message shouldMark : Bool)
    (hover : shouldMark = true → HandedOver env frame s.world.handed) :
    wp (markProcessed (depositIdentity frame) nowMs message shouldMark)
      (fun _ s' => Surviving env contents M s') (fun _ => False)
      (fun s' => Surviving env contents M s') s := by
  unfold markProcessed
  split
  · rename_i hmark
    have hnoted := fun e => h.onward (onward_noted s e)
    refine wp_bind (wp_note (wp_tryCatch (wp_zoom (mark_spec ?_ ?_ ?_ ?_))))
    · exact fun _ => hnoted _
    · rintro id hids
      rw [logIds_eq hids]
      have hmarked := fun e => (hnoted e).withMarker hmark.1 hfed (hover hmark.2) nowMs
      exact ⟨hmarked _, wp_pure (hmarked _)⟩
    · exact wp_pure (hnoted _)
    · exact hnoted _
  · exact wp_pure h

/-- **Once the peer link has answered.** The message is handed over, and the deposit is marked only if
it was what it should be. What is reported consumed or durable, the status says. -/
theorem processStatus_survives (h : Surviving env contents M s) (hfed : Fed contents frame)
    (nowMs : Int) {status : Option (Status (UserMessage μ))} (hanswers : Answers env frame status) :
    wp (processStatus (services env) (depositIdentity frame) frame nowMs status)
      (fun r s' => Surviving env contents
          (fun m => M m ∨ status.bind userMessage = some m) s' ∧
        (r.consumed = true ∨ r.durable = true →
          (status.map consumed).getD false = true ∨
            (status.bind userMessage).isSome = true))
      (fun _ => False) (fun s' => Surviving env contents M s') s := by
  unfold processStatus
  refine wp_bind (wp_mono (goesOn_stageMessage _ _ _ s) ?_ (fun _ h => h)
    fun _ ho => h.onward ho)
  intro staged s₁ h₁
  refine wp_bind (wp_mono (applyMessage_hands _ _ s₁) ?_ (fun _ h => h)
    fun _ ho => h.onward (h₁.trans ho))
  rintro ⟨applied, userApplied⟩ s₂ ⟨h₂, hhanded⟩
  refine wp_bind (wp_mono (goesOn_applyPlaintext _ s₂) ?_ (fun _ h => h)
    fun _ ho => h.onward ((h₁.trans h₂).trans ho))
  intro applied' s₃ h₃
  refine wp_bind (wp_mono (goesOn_reconcile _ _ _ _ _ s₃) ?_ (fun _ h => h)
    fun _ ho => h.onward (((h₁.trans h₂).trans h₃).trans ho))
  intro _ s₄ h₄
  have honward : Onward s s₄ := ((h₁.trans h₂).trans h₃).trans h₄
  have hmessage : ∀ m, status.bind userMessage = some m → m ∈ s₄.world.handed :=
    fun m hm => h₄.handed (h₃.handed (hhanded m hm))
  have hall : Surviving env contents (fun m => M m ∨ status.bind userMessage = some m) s₄ := by
    refine (h.onward honward).more ?_
    rintro m (hm | hm)
    · exact (h.onward honward).handed m hm
    · exact hmessage m hm
  refine wp_bind (wp_mono (markProcessed_survives hall hfed nowMs _ _ ?_) ?_ (fun _ h => h)
    fun _ hs => hs.more fun m hm => hs.handed m (.inl hm))
  · -- what is marked was decrypted, so the status is that of a deposit that opened
    intro hmark e hne he
    cases status with
    | none => exact nomatch hmark
    | some st =>
      obtain ⟨hkey, huser⟩ := hanswers e hne he st rfl ((Bool.and_eq_true _ _).mp hmark).1
      exact ⟨hkey, hmessage _ huser⟩
  · intro _ s₅ h₅
    refine wp_bind (wp_note (wp_pure ⟨h₅.onward (onward_noted _ _), ?_⟩))
    dsimp only
    rintro (hconsumed | hdurable)
    · exact .inl hconsumed
    · split at hdurable
      · rename_i hsome
        exact .inr hsome
      · exact .inl hdurable

/-- The condition: a genuine deposit was handed over before, or is looked at and opens. -/
def Unflooded (env : Surroundings μ ω) (s : SiblingState μ ω) (frame : Frame) : Prop :=
  ∀ plaintext, Genuine env frame plaintext →
    ((depositIdentity frame).dedupId ≠ "" ∧ Marked s.log (depositIdentity frame)) ∨
      (plaintext ≠ "" ∧ s.world.Open env ∧ env.faulty s.world.openings = false)

section

variable (h : Surviving env contents M s)
include h

theorem alreadyProcessed_survives :
    wp (alreadyProcessed (depositIdentity frame))
      (fun already s' => Surviving env contents M s' ∧ s'.world = s.world ∧
        (already = true → (depositIdentity frame).dedupId ≠ "" ∧
          Marked s.log (depositIdentity frame)))
      (fun _ => False) (fun s' => Surviving env contents M s') s := by
  unfold alreadyProcessed
  split
  · exact wp_pure ⟨h, rfl, nofun⟩
  · rename_i hid
    refine wp_tryCatch (wp_zoom (has_spec ?_ ?_ ?_ h))
    · exact fun _ => ⟨h, rfl, nofun⟩
    · rintro id hids
      rw [logIds_eq hids]
      exact ⟨h, rfl, fun hmarked => ⟨hid, hmarked⟩⟩
    · exact wp_bind (wp_note (wp_pure ⟨h.onward (onward_noted _ _), rfl, nofun⟩))

/-- **One deposit.** If it is genuine, and the condition is met, it is reported consumed or durable
only if it was handed over. -/
theorem processOne_survives (hfed : Fed contents frame)
    (nowMs : Int) : wp (processOne (services env) frame nowMs)
      (fun r s' => Surviving env contents M s' ∧
        (Unflooded env s frame → r.consumed = true ∨ r.durable = true → ∀ plaintext,
          Genuine env frame plaintext → siblingMessage frame plaintext ∈ s'.world.handed))
      (fun _ => False) (fun s' => Surviving env contents M s') s := by
  -- what was handed over before stays with the rest
  have hbefore : Surviving env contents (fun m => M m ∨ m ∈ s.world.handed) s := by
    refine h.more ?_
    rintro m (hm | hm)
    · exact h.handed m hm
    · exact hm
  have hless : ∀ {s'}, Surviving env contents (fun m => M m ∨ m ∈ s.world.handed) s' →
      Surviving env contents M s' := fun hs => hs.more fun m hm => hs.handed m (.inl hm)
  unfold processOne
  refine wp_bind (wp_mono (alreadyProcessed_survives hbefore) ?_ (fun _ h => h)
    fun _ h => hless h)
  rintro already s₁ ⟨h₁, hworld, halready⟩
  split
  · rename_i hyes
    obtain ⟨hid, hmarked⟩ := halready hyes
    refine wp_bind (wp_note (wp_pure ⟨hless (h₁.onward (onward_noted _ _)), ?_⟩))
    intro _ _ plaintext hgenuine
    show siblingMessage frame plaintext ∈ s₁.world.handed
    rw [hworld]
    exact h.marked frame plaintext hid hfed hgenuine hmarked
  · -- what the service says of it, with the message that it says it is
    have hnoted := fun e => h₁.onward (onward_noted s₁ e)
    have hdecrypt : wp (decryptDeposit (services env) (depositIdentity frame) frame)
        (fun status s' => Surviving env contents (fun m => M m ∨ m ∈ s.world.handed) s' ∧ Answers env frame status ∧
          ∀ plaintext, Genuine env frame plaintext → plaintext ≠ "" → s.world.Open env →
            env.faulty s.world.openings = false → ∀ st, status = some st →
            st.consumed = true ∨ st.userMessage.isSome = true →
            st.userMessage = some (siblingMessage frame plaintext))
        (fun _ => False)
        (fun s' => Surviving env contents (fun m => M m ∨ m ∈ s.world.handed) s') s₁ := by
      refine wp_bind (wp_note (wp_tryCatch (wp_zoom ?_)))
      have hgrown : ∀ w : Protocol μ ω, w.handed = s₁.world.handed →
          ∀ e, Surviving env contents (fun m => M m ∨ m ∈ s.world.handed)
            { s₁.noted e with world := w } := fun w hw e =>
        (hnoted e).onward ⟨rfl, rfl, fun m hm => hw.symm ▸ hm⟩
      by_cases hopens : ∃ plaintext, Genuine env frame plaintext ∧ plaintext ≠ "" ∧
          s.world.Open env ∧ env.faulty s.world.openings = false
      · obtain ⟨plaintext, hgenuine, hne, hopen, hfaulty⟩ := hopens
        refine wp_mono (wp_and (decryptAny_answers frame s₁.world)
          (decryptAny_opens hgenuine (hworld ▸ hopen) (hworld ▸ hfaulty) hne)) ?_
          (fun _ hs => hs.2.elim) fun _ hs => hs.2.elim
        rintro status w ⟨⟨hanswers, hw⟩, hmessage⟩
        refine ⟨hgrown w hw _, hanswers, fun plaintext' hgenuine' _ _ _ => ?_⟩
        have hsame : plaintext' = plaintext := by
          have := hgenuine'.2.symm.trans hgenuine.2
          rw [some_inj, Sealed.mk.injEq] at this
          exact this.2
        rw [hsame]
        exact hmessage
      · refine wp_mono (decryptAny_answers frame s₁.world) ?_ ?_ fun w hw => hgrown w hw _
        · rintro status w ⟨hanswers, hw⟩
          refine ⟨hgrown w hw _, hanswers, fun plaintext hgenuine hne hopen hfaulty => ?_⟩
          exact absurd ⟨plaintext, hgenuine, hne, hopen, hfaulty⟩ hopens
        · rintro w hw
          refine wp_pure ⟨hgrown w hw _, ?_, ?_⟩
          · exact fun _ _ _ => nofun
          · exact fun _ _ _ _ _ => nofun
    refine wp_bind (wp_mono hdecrypt ?_ (fun _ h => h) fun _ h => hless h)
    rintro status s₂ ⟨h₂, hanswers, hmessage⟩
    refine wp_mono (processStatus_survives h₂ hfed nowMs hanswers) ?_ (fun _ h => h)
      fun _ h => hless h
    rintro r s₃ ⟨h₃, hreported⟩
    refine ⟨h₃.more fun m hm => h₃.handed m (.inl (.inl hm)), fun hunflooded hr plaintext hgenuine => ?_⟩
    rcases hunflooded plaintext hgenuine with ⟨hid, hmarked⟩ | ⟨hne, hopen, hfaulty⟩
    · exact h₃.handed _ (.inl (.inr (h.marked frame plaintext hid hfed hgenuine hmarked)))
    · refine h₃.handed _ (.inr ?_)
      cases status with
      | none =>
        rcases hreported hr with hconsumed | hsome
        · exact nomatch hconsumed
        · exact nomatch hsome
      | some st => exact hmessage plaintext hgenuine hne hopen hfaulty st rfl (hreported hr)

/-! ### The retry buffer -/

theorem redrainEntry_survives {entry : String × PendingEntry}
    (hfed : Fed contents entry.2.frame) (nowMs : Int) (progress : Bool) :
    wp (redrainEntry (services env) nowMs progress entry)
      (fun _ s' => Surviving env contents M s') (fun _ => False)
      (fun s' => Surviving env contents M s') s := by
  unfold redrainEntry
  refine wp_bind (wp_tryCatch (wp_bind (wp_mono
    (processOne_survives h hfed nowMs) ?_ (fun _ hf => hf.elim) (fun _ hs => hs))))
  rintro r s₁ ⟨h₁, -⟩
  exact wp_pure (wp_bind (wp_modify (wp_pure
    (h₁.setPending (h₁.buffered.settle _ _ _)))))

theorem redrainPass_survives (nowMs : Int) :
    wp (redrainPass (services env) nowMs) (fun _ s' => Surviving env contents M s')
      (fun _ => False) (fun s' => Surviving env contents M s') s := by
  unfold redrainPass
  refine wp_bind (wp_get (wp_imp (wp_foldlM
    (fun _ rest s' => Surviving env contents M s' ∧ ∀ e ∈ rest, Fed contents e.2.frame) ?_
    s.pending.entries false s ?_) (fun _ _ h => h.1)))
  · rintro progress entry rest s₁ ⟨h₁, hrest⟩
    refine wp_imp (redrainEntry_survives h₁ (hrest entry mem_cons_self) nowMs progress)
      ?_
    exact fun _ s₂ h₂ => ⟨h₂, fun e he => hrest e (mem_cons_of_mem _ he)⟩
  · exact ⟨h, fun e he => h.buffered e.1 e.2 (OrdMap.mem_entries_iff.1 he)⟩

end

theorem redrainLoop_survives (nowMs : Int) : ∀ (fuel : Nat) (s : SiblingState μ ω),
    Surviving env contents M s → wp (redrainLoop (services env) nowMs fuel)
      (fun _ s' => Surviving env contents M s') (fun _ => False)
      (fun s' => Surviving env contents M s') s
  | 0, _, h => wp_pure h
  | fuel + 1, s, h => by
    rw [redrainLoop]
    refine wp_bind (wp_imp (redrainPass_survives h nowMs) ?_)
    intro progress s' h'
    split
    · exact redrainLoop_survives nowMs fuel s' h'
    · exact wp_pure h'

theorem redrainPending_survives (h : Surviving env contents M s) (nowMs : Int) :
    wp (redrainPending (services env) nowMs) (fun _ s' => Surviving env contents M s')
      (fun _ => False) (fun s' => Surviving env contents M s') s := by
  unfold redrainPending
  exact wp_bind (wp_get (redrainLoop_survives nowMs _ s h))

/-! ### The operations -/

/-- The law: a genuine deposit that is reported consumed or durable was handed over. -/
def Reported (env : Surroundings μ ω) (frame : Frame) (r : Result) (s : SiblingState μ ω) : Prop :=
  r.consumed = true ∨ r.durable = true → ∀ plaintext, Genuine env frame plaintext →
    siblingMessage frame plaintext ∈ s.world.handed

theorem submit_survives (h : Surviving env contents M s) (hfed : Fed contents frame) (nowMs : Int) :
    wp (submit (services env) frame nowMs)
      (fun r s' => Surviving env contents M s' ∧ (Unflooded env s frame → Reported env frame r s'))
      (fun _ => False) (fun s' => Surviving env contents M s') s := by
  unfold submit
  refine wp_bind (wp_imp (processOne_survives h hfed nowMs) ?_)
  rintro r s₁ ⟨h₁, hreported⟩
  refine wp_bind (wp_modify (wp_bind (wp_get ?_)))
  -- what was handed over by now stays handed over while the buffer is fed again
  have hbuffered := h₁.setPending (h₁.buffered.update (services env).limits hfed r)
  have hnow : Surviving env contents (fun m => M m ∨ m ∈ s₁.world.handed)
      { s₁ with pending := updatePending (services env).limits frame r s₁.pending } := by
    refine hbuffered.more ?_
    rintro m (hm | hm)
    · exact h₁.handed m hm
    · exact hm
  split
  · refine wp_bind (wp_mono (redrainPending_survives hnow nowMs) ?_ (fun _ hf => hf)
      fun _ hs => hs.more fun m hm => hs.handed m (.inl hm))
    intro _ s₂ h₂
    refine wp_pure ⟨h₂.more fun m hm => h₂.handed m (.inl hm), ?_⟩
    intro hunflooded hr plaintext hgenuine
    exact h₂.handed _ (.inr (hreported hunflooded hr plaintext hgenuine))
  · exact wp_pure ⟨hbuffered, hreported⟩

theorem sweep_survives (h : Surviving env contents M s) (nowMs : Int) :
    wp (sweep (services env) nowMs) (fun _ s' => Surviving env contents M s') (fun _ => False)
      (fun s' => Surviving env contents M s') s := by
  unfold sweep
  refine wp_bind (wp_get ?_)
  split
  · exact wp_pure h
  · exact wp_bind (wp_imp (redrainPending_survives h nowMs) (fun _ _ h => wp_pure h))

theorem goesOn_retryFailed (mailboxId dedupId : String) (bounds : RetryBounds) (acc : RetryReport)
    (s : SiblingState μ ω) :
    wp (retryFailed mailboxId bounds dedupId acc) (fun _ => Onward s) (fun _ => False)
      (Onward s) s := by
  unfold retryFailed
  refine wp_bind (wp_imp (goesOn_recordOutboxFailure _ _ s) ?_)
  intro count s₁ h₁
  dsimp only
  split
  · refine wp_bind (wp_note (wp_bind (wp_mono (goesOn_markOutboxApplied _ _) ?_
      (fun _ hf => hf) fun _ hs => h₁.trans ((onward_noted _ _).trans hs))))
    exact fun _ _ hs => wp_pure (h₁.trans ((onward_noted _ _).trans hs))
  · exact wp_pure h₁

theorem goesOn_retryEntry (mailboxId : String) (bounds : RetryBounds) (acc : RetryReport)
    (entry : OutboxEntry (UserMessage μ)) (s : SiblingState μ ω) :
    wp (retryEntry (services env) mailboxId bounds acc entry) (fun _ => Onward s)
      (fun _ => False) (Onward s) s := by
  unfold retryEntry
  split
  · exact wp_pure (Onward.refl s)
  · refine wp_tryCatch (wp_bind (wp_mono (applyAny_hands entry.userMessage s) ?_ ?_
      fun _ hs => hs))
    · rintro - s₁ ⟨h₁, -⟩
      refine wp_bind (wp_note (wp_bind (wp_mono (goesOn_markOutboxApplied _ _) ?_
        (fun _ hf => hf.elim) fun _ hs => h₁.trans ((onward_noted _ _).trans hs))))
      exact fun _ _ hs => wp_pure (h₁.trans ((onward_noted _ _).trans hs))
    · rintro s₁ ⟨h₁, -⟩
      exact wp_mono (goesOn_retryFailed _ _ _ _ s₁) (fun _ _ hs => h₁.trans hs)
        (fun _ hf => hf) fun _ hs => h₁.trans hs

theorem goesOn_retryApplyOutbox (mailboxId : String) (bounds : RetryBounds) (s : SiblingState μ ω) :
    wp (retryApplyOutbox (services env) mailboxId bounds) (fun _ => Onward s) (fun _ => False)
      (Onward s) s := by
  unfold retryApplyOutbox
  refine wp_bind (wp_tryCatch (wp_bind (wp_mono (goesOn_inOutbox _ s) ?_ ?_
    fun _ hs => hs)))
  · intro l s₁ h₁
    refine wp_pure (wp_foldlM (fun _ _ => Onward s) ?_ l _ _ h₁)
    intro acc entry _ s₂ h₂
    exact wp_mono (goesOn_retryEntry mailboxId bounds acc entry s₂) (fun _ _ hs => h₂.trans hs)
      (fun _ hf => hf) fun _ hs => h₂.trans hs
  · exact fun _ h₁ => wp_pure (wp_pure h₁)

theorem forget_survives (h : Surviving env contents M s) (mailboxId dedupId : String) :
    wp (inLog (ρ := Protocol μ ω) (μ := UserMessage μ) (forget mailboxId dedupId))
      (fun _ s' => Surviving env contents M s') (fun s' => Surviving env contents M s')
      (fun s' => Surviving env contents M s') s := by
  refine wp_zoom (ProcessedLog.forget_spec ?_ ?_ h h)
  · exact fun _ => h
  · exact fun id _ => ⟨h.withoutMarker id, h.withoutMarker id⟩

/-! ### Runs -/

/-- One operation, where a new process starts with a new limiter. -/
abbrev siblingStep (env : Surroundings μ ω) : SiblingState μ ω → Op → SiblingState μ ω :=
  step (services env) (Protocol.restarted env)

/-- The condition on an operation: under a key of the log there is one deposit, and a genuine one is
looked at. -/
def Spared (env : Surroundings μ ω) (contents : String → String) (s : SiblingState μ ω) : Op → Prop
  | .submit frame _ _ => Fed contents frame ∧ Unflooded env s frame
  | _ => True

/-- What is returned of a genuine deposit says that it was handed over, if it says that it can be
forgotten. -/
def Reports (env : Surroundings μ ω) (s : SiblingState μ ω) : Op → Prop
  | .submit frame nowMs fates => ∀ r,
    (submit (services env) frame nowMs fates s).outcome = .returned r →
      Reported env frame r (submit (services env) frame nowMs fates s).state
  | _ => True

theorem Surviving.restarted (h : Surviving env contents M s) :
    Surviving env contents M (restart (Protocol.restarted env) s) :=
  ⟨h.marked, fun _ _ he => (nomatch he), h.handed⟩

theorem Surviving.finish {α : Type} {p : Proc (SiblingState μ ω) α}
    (h : wp p (fun _ s' => Surviving env contents M s') (fun s' => Surviving env contents M s')
      (fun s' => Surviving env contents M s') s) (fates : List Fate) :
    Surviving env contents M (finish (Protocol.restarted env) (p fates s)) := by
  have he := wp_ending h fates
  unfold Pipeline.finish
  split
  · exact he.restarted
  · exact he

/-- **One step.** Whatever is submitted, what was handed over is not marked for nothing. -/
theorem Surviving.step (h : Surviving env contents M s) {op : Op} (hop : Spared env contents s op) :
    Surviving env contents M (siblingStep env s op) := by
  cases op with
  | submit frame nowMs fates =>
    exact Surviving.finish (wp_mono (submit_survives h hop.1 nowMs) (fun _ _ hs => hs.1)
      (fun _ hf => hf.elim) fun _ hs => hs) fates
  | sweep nowMs fates =>
    exact Surviving.finish (wp_mono (sweep_survives h nowMs) (fun _ _ hs => hs)
      (fun _ hf => hf.elim) fun _ hs => hs) fates
  | retryApplyOutbox mailboxId bounds fates =>
    exact Surviving.finish (wp_mono (goesOn_retryApplyOutbox mailboxId bounds s)
      (fun _ _ ho => h.onward ho) (fun _ hf => hf.elim) fun _ ho => h.onward ho) fates
  | forget mailboxId dedupId fates => exact Surviving.finish (forget_survives h mailboxId dedupId) fates
  | restart => exact h.restarted

theorem Surviving.reports (h : Surviving env contents M s) {op : Op} (hop : Spared env contents s op) :
    Reports env s op := by
  cases op with
  | submit frame nowMs fates =>
    intro r hr
    exact (wp_returned (submit_survives h hop.1 nowMs) hr).2 hop.2
  | sweep | retryApplyOutbox | forget | restart => trivial

theorem surviving_fresh (world : Protocol μ ω) :
    Surviving env contents (fun _ => False) (fresh world) :=
  ⟨fun _ _ _ _ _ hmarked => (nomatch hmarked), fun _ _ he => (nomatch he), fun _ h => h.elim⟩

/-- **Sibling traffic survives**, in every run of submits, sweeps, retry passes, prunings and restarts
in which each genuine deposit is looked at when it is submitted, or was handed over before. -/
theorem run_spared (env : Surroundings μ ω) (contents : String → String) (world : Protocol μ ω)
    (ops : List Op)
    (hops : Runs.Meets (siblingStep env) (Spared env contents) (fresh world) ops) :
    Runs.Meets (siblingStep env) (Reports env) (fresh world) ops :=
  Runs.meets_of_invariant (siblingStep env) (I := Surviving env contents fun _ => False)
    (fun _ _ h hop => Surviving.step h hop) (fun _ _ h hop => Surviving.reports h hop) ops
    (fresh world) (surviving_fresh world) hops

/-- Services for which only what is sealed under `k` for the inbox `m` is genuine. -/
def lonelyDevice : Surroundings Unit Unit where
  secret := "k"
  envelope ciphertext := some ⟨if ciphertext = "junk" then ("", "") else ("k", "m"), ciphertext⟩
  supported := true
  faulty _ := false
  clock _ := 1
  peer :=
    { decryptDeposit := fun _ => pure none
      applyUserMessage := fun _ => pure ()
      processDeposit := fun _ => pure () }
  applyAccountState _ := pure ()
  wake := id

/-- A home event of the mailbox `m`, with an account-state envelope. -/
def deposited (seq : Nat) (ciphertext : String) : Frame :=
  { mailboxId := some "m", seq := some seq, ciphertextB64 := some ciphertext }

/-- The limiter as a new process has it. -/
def newLimiter : Protocol Unit Unit := ⟨0, 0, 0, 0, [], ()⟩

/-- `run_spared` where one junk deposit comes before what a sibling sent. -/
theorem run_spared_sibling :
    Runs.Meets (siblingStep lonelyDevice) (Reports lonelyDevice) (fresh newLimiter)
      [.submit (deposited 1 "junk") 0 [], .submit (deposited 2 "renamed") 0 []] := by
  refine run_spared lonelyDevice
    (fun key => if key = logKey (depositIdentity (deposited 1 "junk")) then "junk"
      else "renamed") newLimiter _ ⟨⟨fun _ => by decide, fun plaintext hgenuine => ?_⟩,
      ⟨fun _ => by decide, fun plaintext hgenuine => .inr ⟨?_, by decide, rfl⟩⟩, trivial⟩
  · have hkey : "" = "k" :=
      congrArg (fun e => e.key.1) (some_inj.1 hgenuine.2)
    exact absurd hkey (by decide)
  · rintro rfl
    exact absurd (congrArg Sealed.content (some_inj.1 hgenuine.2)) (by decide)

/-- The junk comes in one window. -/
def junkFlood : List Op :=
  (range accountStateOpenFailureMax).map fun n => .submit (deposited n "junk") 0 []

/-- **Fifty junk deposits in ten seconds make a device miss what its sibling sent.** It is reported
consumed and durable, and nothing was handed over. -/
theorem flooded_out : ¬ ∀ ops : List Op,
    Runs.Meets (siblingStep lonelyDevice) (Reports lonelyDevice) (fresh newLimiter) ops := by
  intro h
  have hreports := Runs.Meets.step_of_append (siblingStep lonelyDevice) junkFlood
    (h (junkFlood ++ [.submit (deposited 50 "renamed") 0 []]))
  have hdropped : (submit (services lonelyDevice) (deposited 50 "renamed") 0 []
      (Runs.run (siblingStep lonelyDevice) (fresh newLimiter) junkFlood)).outcome =
      .returned ⟨true, false, false, true, true⟩ := by decide +kernel
  have hunheard : (submit (services lonelyDevice) (deposited 50 "renamed") 0 []
      (Runs.run (siblingStep lonelyDevice) (fresh newLimiter) junkFlood)).state.world.handed = [] := by
    decide +kernel
  have hgenuine : Genuine lonelyDevice (deposited 50 "renamed") "renamed" := ⟨by decide, by decide⟩
  generalize Runs.run (siblingStep lonelyDevice) (fresh newLimiter) junkFlood = s
    at hreports hdropped hunheard
  have hmem := hreports _ hdropped (.inl rfl) "renamed" hgenuine
  rw [hunheard] at hmem
  exact nomatch hmem

end Pipeline

end RezChat.Inbox
