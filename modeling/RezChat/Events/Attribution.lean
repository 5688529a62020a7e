/-
On whose behalf a deposit is applied.

A peer link authenticates the sender of an envelope, the account-state key the
devices of the own account, and a signature the author of an original; nothing
else authenticates anyone. Three things ought to follow: only the account-state
key gives access to the account-state handlers, an account is acted for only by
an envelope or a signature of its own, and a signed original is carried by the
peer link of its author.

None of them follows for every deposit. The registry is entered by the kind of
the payload alone, the sender falls back to fields anyone can write, and the
author of a signature is never compared to the sender of its envelope. Each
section states the law, the deposits for which it holds, and one for which it
does not.
-/
import RezChat.Events.Provenance

set_option autoImplicit false

namespace RezChat.Events

open Inbox (Frame trim trimmed trim_trim trim_trimmed)
open Service Thread RezChat.Events.Action Runs Bool Deposit
open List Option Proc

variable {σ : Type} {svc : Services σ} {d : Deposit}

/-! ## Envelopes -/

/-- The sender that was authenticated when the deposit was opened. -/
def Deposit.authenticatedSender (d : Deposit) : String :=
  match d.origin with
  | .peerLink accountId => trim accountId
  | _ => ""

/-- How the envelope sender of a deposit relates to the way it was opened. -/
def Framed (svc : Services σ) (d : Deposit) : Prop :=
  match d.origin with
  | .plaintext => True
  | .peerLink accountId => d.envelopeSender = trim accountId
  | .accountStateKey => d.envelopeSender = ""
  | .siblingTransfer => d.signed = true ∧ svc.cryptoProvider = true ∧
      d.envelopeSender = d.payloadSender ∧ d.payloadSender ≠ ""

theorem framed_ofFrame (frame : Frame) : Framed svc (ofFrame svc frame) := trivial

theorem framed_ofUserMessage (m : UserMessage) : Framed svc (ofUserMessage svc m) := by
  obtain ⟨mailboxId, eventId, plaintextB64, opener⟩ := m
  cases opener with
  | peerLink accountId =>
    show trim (trim accountId) = trim accountId
    rw [trim_trim]
  | accountStateKey =>
    show trim (trim "") = ""
    rfl

variable {p : Payload}

theorem framed_factDeposit (hp : admissibleFact svc p = true) :
    Framed svc (factDeposit svc p) := by
  rw [admissibleFact, and_eq_true, and_eq_true, and_eq_true,
    decide_eq_true_eq, decide_eq_true_eq] at hp
  exact ⟨hp.1.1.1, hp.2, trim_trimmed _, hp.1.2⟩

variable {k : PayloadKind}

/-- A fact is an original. -/
theorem kind_factDeposit (hp : admissibleFact svc p = true)
    (hk : (factDeposit svc p).kind = some k) : k ∈ originalMessageKinds := by
  have hkind : p.kind = some k.wire := getPayloadEntry_eq_some.1 hk
  rw [admissibleFact, and_eq_true, and_eq_true, and_eq_true,
    Payload.signedOriginal, and_eq_true, hkind] at hp
  exact isOriginalMessageKind_wire hp.1.1.1.1

/-- In every run the envelope sender of each deposit is what its opening makes
it, next to whatever else every deposit satisfies. -/
theorem run_framed {C : Deposit → Prop}
    (hfact : ∀ p, admissibleFact svc p = true → C (factDeposit svc p)) (world : σ)
    (ops : List (Op σ))
    (hops : Meets (step svc) (fun _ op => op.Brings svc C) (fresh world) ops) :
    Accounted svc (fun d => Framed svc d ∧ C d)
      (run (step svc) (fresh world) ops) := by
  refine run_booked (fun p hp => ⟨framed_factDeposit hp, hfact p hp⟩) world ops ?_
  refine Meets.mono (step svc) ?_ ops hops
  intro _ op hop
  cases op with
  | processDeposit frame fates => exact ⟨framed_ofFrame frame, hop⟩
  | applyUserMessage m fates => exact ⟨framed_ofUserMessage m, hop⟩
  | elsewhere change => exact trivial
  | restart => exact trivial

/-- **Nothing is done that admission did not allow.** In every run, whatever deposits are brought and
whatever calls fail, the sender on the envelope of each deposit that is handled or held is what its
opening makes it, and every action was allowed for its deposit. -/
theorem run_allowed (svc : Services σ) (world : σ) (ops : List (Op σ)) :
    Accounted svc (Framed svc) (run (step svc) (fresh world) ops) := by
  have hrun : Accounted svc (fun d => Framed svc d ∧ True)
      (run (step svc) (fresh world) ops) := by
    refine run_framed (fun _ _ => trivial) world ops ?_
    exact meets_of_forall (step svc) ops _ fun op _ _ => by cases op <;> exact trivial
  exact ⟨fun d a h => ⟨(hrun.journal d a h).1.1, (hrun.journal d a h).2⟩,
    fun key bucket h d hd => (hrun.deferred key bucket h d hd).1⟩

/-! ## A small server

It knows a group with the member `bob`, and has a direct thread with `alice`.
Its handlers consume whatever they are handed, and a signature is the name of
its author. `content` says what the bytes of a deposit decode to. -/

def groupThread : Thread := ⟨.group, "room", "", "", fun _ => rfl⟩

def smallServer (content : String → Option Payload) : Services Unit where
  clock _ := 1000
  decode := content
  encode _ := ""
  recordClass _ _ := true
  sdkRecordNamesSender _ := false
  cryptoProvider := true
  messageFingerprint p := p.contentHash
  verifySignedAccountClaim p _ := p.sig == p.senderAccountId
  getThread _ id :=
    if id = "th_room" then some groupThread
    else if id = "th_alice" then some (withPeer "alice" "inbox_alice")
    else none
  listThreadIds _ := ["th_room", "th_alice"]
  isActiveContact _ account := account == "alice"
  acceptOutgoingConnectRequest _ := pure false
  listPeerLinks _ := []
  directThreadIdForPeerLink _ _ := ""
  ensureDirectThread _ _ _ _ := pure none
  getMembership _ groupId account :=
    if groupId = "room" ∧ account = "bob" then some "active" else none
  appendOriginalFact _ _ _ _ := pure none
  markMessageConflicted _ _ := pure ()
  upsertDepositedMessage _ := pure ()
  upsertFromMessage _ _ _ _ := pure ()
  ensureFromObservedMessage _ _ _ := pure ()
  sendAck _ w := w
  handleIncomingReaction _ _ _ := pure ⟨true, false⟩
  handleIncomingEdit _ _ _ := pure ⟨true, false⟩
  handleIncomingTombstone _ _ _ := pure ⟨true, false⟩
  handleIncomingGroupOp _ _ := pure ⟨⟨true, false⟩, none, false⟩
  forwardMemberJoin _ := pure false
  handleIncomingConnectRequest _ _ := pure ⟨true, false⟩
  applyInbound _ := pure false
  openSiblingSync _ := pure []
  admitFact _ := pure false
  closeSiblingSync _ := pure false
  handleCommitAck _ _ _ := pure false
  handleIncomingConnectAccepted _ _ _ := pure ⟨true, false⟩
  handleIncomingPayload _ _ _ _ := pure ⟨true, false⟩
  storeFile _ := pure ()
  handleIncomingProfile _ _ := pure ⟨true, false⟩

/-! ## The account-state handlers -/

/-- The kinds that only the devices of the own account may send. -/
def PayloadKind.accountKeyed : PayloadKind → Bool
  | .accountStateEvent | .siblingSync => true
  | _ => false

/-- The account-state handlers were entered only with deposits that the
account-state key opened. -/
def AccountKeyIsolated (s : State σ) : Prop :=
  ∀ d k account verified, (d, dispatching k account verified) ∈ s.journal →
    k.accountKeyed = true → d.origin = .accountStateKey

/-- The deposit is no well-formed payload of these kinds, or the account-state
key opened it. -/
def Sealed (svc : Services σ) (d : Deposit) : Prop :=
  ∀ k p, d.kind = some k → d.payload = some p → k.accountKeyed = true → handled d = true →
    svc.recordClass k p = true → d.origin = .accountStateKey

theorem not_original_of_accountKeyed (h : k.accountKeyed = true) :
    k ∉ originalMessageKinds := by
  revert h
  cases k <;> decide

theorem sealed_factDeposit (hp : admissibleFact svc p = true) :
    Sealed svc (factDeposit svc p) := by
  intro k q hk hq hkeyed
  -- a fact is an original, and no original is of these kinds
  obtain rfl : p = q := some_inj.1 hq
  have hkind : p.kind = some k.wire := getPayloadEntry_eq_some.1 hk
  rw [admissibleFact, and_eq_true, and_eq_true, and_eq_true,
    Payload.signedOriginal, and_eq_true, hkind] at hp
  exact absurd (isOriginalMessageKind_wire hp.1.1.1.1) (not_original_of_accountKeyed hkeyed)

/-- **Account-state key isolation.** In every run that brings no plaintext or
peer deposit of these kinds, the account-state handlers are entered only with
deposits that the account-state key opened. -/
theorem run_accountKeyIsolated (svc : Services σ) (world : σ) (ops : List (Service.Op σ))
    (hops : Runs.Meets (Service.step svc) (fun _ op => op.Brings svc (Sealed svc))
      (fresh world) ops) :
    AccountKeyIsolated (run (Service.step svc) (fresh world) ops) := by
  intro d k account verified hmem hkeyed
  have hrun := run_booked (fun p hp => sealed_factDeposit hp) world ops hops
  obtain ⟨hsealed, hadm, hk, p, -, hp, hrec, -, -⟩ := hrun.journal _ _ hmem
  exact hsealed k p hk hp hkeyed hadm.handled hrec

/-- The bytes `state` are an account-state event. -/
def stateContent (b64 : String) : Option Payload :=
  if b64 = "state" then some { kind := some "rez.account.state.v1" } else none

/-- A sibling device's event, opened with the account-state key. -/
def siblingEvent : UserMessage := ⟨"m", "seq:1", "state", .accountStateKey⟩

/-- `run_accountKeyIsolated` at a run that applies an event of a sibling. -/
theorem run_accountKeyIsolated_sibling :
    AccountKeyIsolated (run (Service.step (smallServer stateContent)) (fresh ())
      [.applyUserMessage siblingEvent []]) :=
  run_accountKeyIsolated (smallServer stateContent) () _
    ⟨fun _ _ _ _ _ _ _ => rfl, trivial⟩

/-- The same event in a plaintext frame. -/
def plaintextEvent : Frame :=
  { mailboxId := some "m", seq := some 1, ciphertextB64 := some "state" }

/-- **A plaintext account-state event is applied.** Nothing on the way from the
wire to the registry asks how the deposit was opened. -/
theorem plaintextEvent_dispatched :
    ¬ AccountKeyIsolated (run (Service.step (smallServer stateContent)) (fresh ())
      [.processDeposit plaintextEvent []]) := by
  intro h
  have hmem : (ofFrame (smallServer stateContent) plaintextEvent,
      dispatching .accountStateEvent "" false) ∈
      (run (Service.step (smallServer stateContent)) (fresh ())
        [.processDeposit plaintextEvent []]).journal := by decide
  exact absurd (h _ _ _ _ hmem rfl) (by decide)

/-- An action that was taken stays in the journal. -/
theorem mem_ledger (e : Deposit × Action) :
    Ledger svc (fun _ => True) (fun s : State σ => e ∈ s.journal) where
  keeper _ _ :=
    { world := fun _ _ hs => hs
      noted := fun _ _ hs _ => mem_cons_of_mem _ hs
      deferred := fun _ _ hs => hs }
  held _ _ _ _ _ _ _ := trivial
  flushed _ _ hs := hs
  fact _ _ := trivial

/-- A deposit that names neither a thread nor a sender has none, and no gate looks
at it. -/
theorem applyDeposit_threadless {re : Reentry σ} {redelivering : Bool}
    (hh : handled d = true) (ht : d.payloadThreadId = "") (hs : d.payloadSender = "")
    (ho : ∀ p, d.payload = some p → isOriginalMessageKind p.kind = false) :
    applyDeposit svc re redelivering d =
      applyAdmitted svc re d ⟨"", none, false, false⟩ ⟨false, ""⟩ := by
  have hr : resolveThread svc d = pure ⟨"", none, false, false⟩ := by
    unfold resolveThread namedThread
    rw [if_pos ht]
    show (if d.payloadSender = "" then _ else _) = _
    rw [if_pos hs]
  have ha : admitOriginal svc d "" = pure (some ⟨false, ""⟩) := by
    unfold admitOriginal
    split
    · rfl
    · rename_i p hp
      rw [if_neg (by rw [ho p hp]; exact false_ne_true)]
  rw [applyDeposit, if_pos hh, hr]
  show (passGates svc redelivering d ⟨"", none, false, false⟩ >>= _) = _
  have hp : passGates svc redelivering d ⟨"", none, false, false⟩ =
      pure (.ok ⟨false, ""⟩) := by
    rw [passGates, if_neg (by rw [foreignDirectThread]; exact false_ne_true)]
    show (admitOriginal svc d "" >>= _) = _
    rw [ha]
    rfl
  rw [hp]
  rfl

/-- **The condition is needed.** A well-formed payload of these kinds that names
no thread and no sender is dispatched in every state and whatever fails, however
it was opened. -/
theorem accountKeyed_dispatched (hk : d.kind = some k)
    (hp : d.payload = some p) (hkeyed : k.accountKeyed = true) (hh : handled d = true)
    (hrec : svc.recordClass k p = true) (ht : d.payloadThreadId = "")
    (hs : d.payloadSender = "") (fates : List Fate) (s : State σ) :
    ∃ account, (d, dispatching k account false) ∈
      (handleMailboxDeposited svc d fates s).state.journal := by
  have ho : ∀ q, d.payload = some q → isOriginalMessageKind q.kind = false := by
    intro q hq
    obtain rfl : p = q := some_inj.1 (hp.symm.trans hq)
    rw [kind, hp, bind_some, getPayloadEntry_eq_some] at hk
    rw [hk]
    refine eq_false_of_not_eq_true fun h => ?_
    exact not_original_of_accountKeyed hkeyed (isOriginalMessageKind_wire h)
  have hsigned : d.signed = true → svc.cryptoProvider = false := by
    intro h
    rw [signed, hp, map_some, getD_some, Payload.signedOriginal,
      ho p hp, Bool.false_and] at h
    exact absurd h false_ne_true
  have hadm : Admitted svc d false := admitted_false hh hsigned
  have hr : Placed svc d ⟨"", none, false, false⟩ := ⟨.inl rfl, rfl⟩
  let account := extractPayloadSender svc (dispatchCtx d ⟨"", none, false, false⟩) k p
  have hI : Ledger svc (fun _ => True)
      (fun s : State σ => (d, dispatching k account false) ∈ s.journal) :=
    mem_ledger (d, dispatching k account false)
  have hd := (hI.keeper d trivial).handling
  have hre := freshReentry_keepsInv hI.service
  -- once the dispatch is noted, nothing takes it out of the journal again
  have hfiled : ∀ answer : Answer, Holds (fun s : State σ =>
      (d, dispatching k account false) ∈ s.journal)
      (if answer.consumed = true then pure ⟨Disposition.consumed, false || answer.failed⟩
        else persist svc d ⟨"", none, false, false⟩ ⟨false, ""⟩ (false || answer.failed)) := by
    intro answer
    split
    · exact holds_pure
    · exact keeps_persist (hd.content _) hadm hr _
  have hsettle : ∀ verdict : Verdict, Holds (fun s : State σ =>
      (d, dispatching k account false) ∈ s.journal)
      (do
        note d (.settled verdict)
        pure verdict) := fun verdict =>
    keeps_last (keeps_note (hd.content ⟨"", none, false, false⟩) trivial)
  refine ⟨account, wp_ending (I := fun s : State σ =>
    (d, dispatching k account false) ∈ s.journal) ?_ fates⟩
  rw [handleMailboxDeposited, handleWith, applyDeposit_threadless hh ht hs ho, applyAdmitted]
  simp only [hk, hp]
  rw [if_pos hrec, dispatch]
  refine wp_bind (wp_bind (wp_bind (wp_modify ?_)))
  have hentry := keeps_dispatchEntry hd hre hk hp ⟨"", none, false, false⟩
    (s := { s with journal := (d, .dispatching k account false) :: s.journal })
    mem_cons_self ⟨_, mem_cons_self⟩
  refine wp_tryCatch (wp_mono hentry (fun answer s' hs' => ?_)
    (fun s' hs' => wp_pure ?_) (fun _ hd => hd))
  · refine wp_imp ((hfiled answer).wp hs'.1) (fun verdict s'' hs'' => ?_)
    exact wp_imp ((hsettle verdict).wp hs''.1) (fun _ _ h => h.1)
  · -- a dispatch that throws is answered as one that did not consume the deposit
    refine wp_imp ((hfiled ⟨false, true⟩).wp hs') (fun verdict s'' hs'' => ?_)
    exact wp_imp ((hsettle verdict).wp hs''.1) (fun _ _ h => h.1)

theorem accountKeyed_dispatched_plaintext : ∃ account,
    (ofFrame (smallServer stateContent) plaintextEvent, dispatching .accountStateEvent account false) ∈
      (handleMailboxDeposited (smallServer stateContent)
        (ofFrame (smallServer stateContent) plaintextEvent) [] (fresh ())).state.journal :=
  accountKeyed_dispatched rfl rfl rfl rfl rfl rfl rfl [] (fresh ())

/-! ## The account a deposit is applied for -/

/-- The account an action is taken on behalf of, if it is taken on behalf of
one: the account-state handlers and the avatar store are handed none. -/
def Action.onBehalfOf : Action → Option String
  | .dispatching k account _ =>
    match k with
    | .accountStateEvent | .siblingSync | .avatar => none
    | _ => some account
  | .persisting account _ => some account
  | .observing account _ => some account
  | _ => none

theorem onBehalfOf_dispatching {account account' : String} {verified : Bool}
    (h : (dispatching k account verified).onBehalfOf = some account') :
    account = account' := by
  revert h
  cases k <;> simp [onBehalfOf]

/-- The account was authenticated: by the peer link that opened the deposit, or
by its signature over the payload. -/
def Genuine (svc : Services σ) (d : Deposit) (account : String) : Prop :=
  account = d.authenticatedSender ∨ (Verifies svc d ∧ account = d.payloadSender)

/-- Whatever was applied on behalf of an account came from that account. -/
def InboundAttributed (svc : Services σ) (s : State σ) : Prop :=
  ∀ d a account, (d, a) ∈ s.journal → a.onBehalfOf = some account → account ≠ "" →
    Genuine svc d account

/-- The accounts a deposit may be attributed to: the peer of its thread, then the
sender of its envelope, then the sender in its payload. -/
def Attributed (d : Deposit) (r : Resolved) (account : String) : Prop :=
  (peer r.thread ≠ "" ∧ account = peer r.thread) ∨
  (peer r.thread = "" ∧ d.envelopeSender ≠ "" ∧ account = d.envelopeSender) ∨
  (peer r.thread = "" ∧ d.envelopeSender = "" ∧
    (account = d.payloadSender ∨ account = ""))

theorem rowSender_attributed (d : Deposit) (r : Resolved) : Attributed d r (rowSender d r) := by
  unfold rowSender
  by_cases hp : peer r.thread = ""
  · by_cases he : d.envelopeSender = ""
    · rw [if_neg (not_not.2 hp), if_neg (not_not.2 he)]
      exact .inr (.inr ⟨hp, he, .inl rfl⟩)
    · rw [if_neg (not_not.2 hp), if_pos he]
      exact .inr (.inl ⟨hp, he, rfl⟩)
  · rw [if_pos hp]
    exact .inl ⟨hp, rfl⟩

variable {r : Resolved}

theorem extractPayloadSender_attributed
    (hp : d.payload = some p) :
    Attributed d r (extractPayloadSender svc (dispatchCtx d r) k p) := by
  have htrim : trim (peer r.thread) = peer r.thread := trim_trim _
  have htrim' : trim d.envelopeSender = d.envelopeSender := trim_trim _
  have hrecord : recordSender svc k p = d.payloadSender ∨ recordSender svc k p = "" := by
    unfold recordSender
    split
    · left
      rw [payloadSender, hp]
      rfl
    · exact .inr rfl
  unfold extractPayloadSender dispatchCtx
  by_cases hpeer : peer r.thread = ""
  · simp only [hpeer, ne_eq, not_true_eq_false, if_false, htrim']
    by_cases he : d.envelopeSender = ""
    · rw [if_neg (not_not.2 he)]
      exact .inr (.inr ⟨hpeer, he, hrecord⟩)
    · rw [if_pos he]
      exact .inr (.inl ⟨hpeer, he, rfl⟩)
  · simp only [if_pos hpeer, htrim]
    exact .inl ⟨hpeer, rfl⟩

/-- The thread of a deposit whose envelope has a sender is nobody else's. -/
theorem Placed.peer_of_sender (h : Placed svc d r) (he : d.envelopeSender ≠ "")
    (hp : peer r.thread ≠ "") : peer r.thread = d.envelopeSender := by
  by_contra hne
  obtain ⟨threadId, thread, refused, failed⟩ := r
  cases thread with
  | none => exact hp rfl
  | some t =>
    cases htype : t.threadType with
    | direct =>
      have hforeign : foreignDirectThread d (some t) = true := by
        rw [foreignDirectThread, decide_eq_true_eq]
        exact ⟨htype, he, hp, hne⟩
      exact absurd (hforeign.symm.trans h.own) Bool.noConfusion
    | group =>
      -- a group thread has no peer
      refine hp ?_
      rw [peer, map_some, getD_some, t.peerless htype]
      rfl

/-- The peer of the thread that a deposit names, whenever it is looked up, is one
of `accounts`. -/
def NamesPeersOf (svc : Services σ) (d : Deposit) (accounts : List String) : Prop :=
  ∀ w t, svc.getThread w d.payloadThreadId = some t → peer (some t) ∈ accounts

/-- The thread of a deposit that names nobody else's is nobody else's. -/
theorem Placed.peer_of_named (h : Placed svc d r)
    (hn : NamesPeersOf svc d ["", d.payloadSender]) (hp : peer r.thread ≠ "") :
    peer r.thread = d.payloadSender := by
  rcases h.found with hnone | ⟨-, w, hw⟩ | ⟨t, -, -, hpeer⟩
  · rw [hnone] at hp
    exact absurd rfl hp
  · cases ht : r.thread with
    | none =>
      rw [ht] at hp
      exact absurd rfl hp
    | some t =>
      rw [ht] at hw hp
      have hmem := hn w t hw
      rw [mem_cons, mem_singleton] at hmem
      exact hmem.resolve_left hp
  · exact hpeer

/-- A deposit without an authenticated sender names nobody: not in its frame, not
in its payload, and not by its thread. -/
structure Anonymous (svc : Services σ) (d : Deposit) : Prop where
  envelope : d.envelopeSender = ""
  payload : d.payloadSender = ""
  thread : NamesPeersOf svc d [""]

/-- A deposit that carries a signature which will be verified, and names nobody
but its signer. -/
structure SelfSigned (svc : Services σ) (d : Deposit) : Prop where
  signed : d.signed = true
  verifiable : svc.cryptoProvider = true
  envelope : d.envelopeSender = "" ∨ d.envelopeSender = d.payloadSender
  thread : NamesPeersOf svc d ["", d.payloadSender]

/-- The deposit has an authenticated sender, or it claims no sender but the one
that signed it. -/
def ConfersNoSender (svc : Services σ) (d : Deposit) : Prop :=
  handled d = true → d.authenticatedSender ≠ "" ∨ d.origin = .siblingTransfer ∨
    Anonymous svc d ∨ SelfSigned svc d

/-- A signed deposit that names nobody but its signer is attributed to it. -/
theorem genuine_of_signed {account : String} (hv : Verifies svc d)
    (he : d.envelopeSender = "" ∨ d.envelopeSender = d.payloadSender)
    (hpeer : peer r.thread ≠ "" → peer r.thread = d.payloadSender)
    (ha : Attributed d r account) (hne : account ≠ "") : Genuine svc d account := by
  refine .inr ⟨hv, ?_⟩
  rcases ha with ⟨hp, rfl⟩ | ⟨-, hsender, rfl⟩ | ⟨-, -, rfl | rfl⟩
  · exact hpeer hp
  · exact he.resolve_left hsender
  · rfl
  · exact absurd rfl hne

theorem genuine_of_attributed {account : String} {verified : Bool}
    (hf : Framed svc d) (hc : ConfersNoSender svc d) (hadm : Admitted svc d verified)
    (hr : Placed svc d r) (ha : Attributed d r account) (hne : account ≠ "") :
    Genuine svc d account := by
  have verifies : d.signed = true → svc.cryptoProvider = true → Verifies svc d :=
    fun hs hcrypto => (hadm.holds (hadm.all hs hcrypto)).2
  rcases hc hadm.handled with hauth | horigin | hanon | hself
  · -- a peer link authenticated the sender of the envelope, and the thread is its own
    left
    have henv : d.envelopeSender = d.authenticatedSender := by
      unfold Framed at hf
      unfold authenticatedSender at hauth ⊢
      cases ho : d.origin with
      | peerLink accountId =>
        rw [ho] at hf
        exact hf
      | plaintext | accountStateKey | siblingTransfer =>
        rw [ho] at hauth
        exact absurd rfl hauth
    rw [← henv] at hauth ⊢
    rcases ha with ⟨hp, rfl⟩ | ⟨-, -, rfl⟩ | ⟨-, he, -⟩
    · exact hr.peer_of_sender hauth hp
    · rfl
    · exact absurd he hauth
  · rw [Framed, horigin] at hf
    obtain ⟨hs, hcrypto, henv, hsender⟩ := hf
    refine genuine_of_signed (verifies hs hcrypto) (.inr henv) (fun hp => ?_) ha hne
    rw [← henv]
    exact hr.peer_of_sender (henv ▸ hsender) hp
  · exfalso
    have hpeer : peer r.thread = "" := by
      by_contra hp
      refine hp ((hr.peer_of_named ?_ hp).trans hanon.payload)
      intro w t ht
      exact mem_cons.2 (.inl (mem_singleton.1 (hanon.thread w t ht)))
    rcases ha with ⟨hp, -⟩ | ⟨-, he, -⟩ | ⟨-, -, rfl | rfl⟩
    · exact hp hpeer
    · exact he hanon.envelope
    · exact hne hanon.payload
    · exact hne rfl
  · exact genuine_of_signed (verifies hself.signed hself.verifiable) hself.envelope
      (hr.peer_of_named hself.thread) ha hne

/-- The bytes `hi` are a chat message that names the direct thread with
`alice`. -/
def chatContent (b64 : String) : Option Payload :=
  if b64 = "hi" then
    some { kind := some "rez.chat.message.v1", threadId := some "th_alice"
           senderAccountId := some "alice", messageId := some "m1", text := some "hi" }
  else none

/-- The message as the peer link with `alice` opens it. -/
def fromAlice : UserMessage := ⟨"m", "seq:1", "hi", .peerLink "alice"⟩

/-- The same message in a plaintext frame. -/
def plaintextChat : Frame :=
  { mailboxId := some "m", seq := some 1, ciphertextB64 := some "hi" }

/-- A deposit of a signed original that came in live, and something was done
with: its fact was appended, a row filed or changed, or an ack sent. -/
def Action.projects : Action → Bool
  | .settled _ => false
  | _ => true

/-- Whatever was done with a signed original that came in live, a peer link had
authenticated its signer. -/
def SignerCarried (s : State σ) : Prop :=
  ∀ d a, (d, a) ∈ s.journal → a.projects = true → d.signed = true →
    d.origin ≠ .siblingTransfer →
    ∃ accountId, d.origin = .peerLink accountId ∧ trim accountId = d.payloadSender

/-- No signature of a deposit holds, and the server would know. -/
def Unverifiable (svc : Services σ) (d : Deposit) : Prop :=
  svc.cryptoProvider = true ∧ ∀ p nowMs, d.payload = some p →
    verifyOriginalMessageForAdmission svc p nowMs = none

/-- A signed original comes over the peer link of its signer, unless its
signature does not hold. -/
def CarriedBySigner (svc : Services σ) (d : Deposit) : Prop :=
  handled d = true → d.signed = true → d.origin ≠ .siblingTransfer → Unverifiable svc d ∨
    ∃ accountId, d.origin = .peerLink accountId ∧ trim accountId = d.payloadSender

theorem Allowed.admitted {a : Action} (h : Allowed svc d a) (ha : a.projects = true) :
    ∃ verified, Admitted svc d verified := by
  cases a with
  | appending _ | flagging _ => exact ⟨true, h⟩
  | dispatching _ _ verified | persisting _ verified | observing _ verified =>
    exact ⟨verified, h.1⟩
  | acking _ => exact h
  | settled _ => exact absurd ha false_ne_true

/-- **A signed fact is projected only under its own author**, in every run in
which no signed original with a valid signature comes in other than over the
peer link of its signer. -/
theorem run_signerCarried (svc : Services σ) (world : σ) (ops : List (Service.Op σ))
    (hops : Runs.Meets (Service.step svc) (fun _ op => op.Brings svc (CarriedBySigner svc))
      (fresh world) ops) :
    SignerCarried (run (Service.step svc) (fresh world) ops) := by
  intro d a hmem ha hs ho
  have hrun := run_booked (fun _ _ _ _ hne => absurd rfl hne) world ops hops
  obtain ⟨hcarried, hallowed⟩ := hrun.journal d a hmem
  obtain ⟨verified, hadm⟩ := hallowed.admitted ha
  rcases hcarried hadm.handled hs ho with ⟨hcrypto, hnone⟩ | hcarrier
  · -- had it been admitted, its signature would have been verified
    obtain ⟨-, -, p, nowMs, fp, hp, hv⟩ := hadm.holds (hadm.all hs hcrypto)
    exact absurd (hv.symm.trans (hnone p nowMs hp)) (by simp)
  · exact hcarrier

/-- The bytes `signed` are a message of `alice` to the group, with her
signature. -/
def groupContent (b64 : String) : Option Payload :=
  if b64 = "signed" then
    some { kind := some "rez.chat.message.v1", threadId := some "th_room"
           senderAccountId := some "alice", messageId := some "m1", text := some "hi"
           signerPublicKeyB64 := some "key", senderAuthorityEpoch := some 0
           contentHash := some "fp", sig := some "alice" }
  else none

/-- The message over the peer link with its author. -/
def fromAuthor : UserMessage := ⟨"m", "seq:1", "signed", .peerLink "alice"⟩

/-- `run_signerCarried` at a run that applies the message of `alice`. -/
theorem run_signerCarried_author :
    SignerCarried (run (Service.step (smallServer groupContent)) (fresh ())
      [.applyUserMessage fromAuthor []]) :=
  run_signerCarried (smallServer groupContent) () _
    ⟨fun _ _ _ => .inr ⟨"alice", rfl, by decide⟩, trivial⟩

/-- The same message, sent once more by another member of the group. -/
def fromRelayer : UserMessage := ⟨"m", "seq:1", "signed", .peerLink "bob"⟩

/-- **A member of a group can send a signed message of another once more.** The
fact is appended as the author's, and the row is filed under the member. -/
theorem fromRelayer_projected :
    ¬ SignerCarried (run (Service.step (smallServer groupContent)) (fresh ())
      [.applyUserMessage fromRelayer []]) := by
  intro h
  have hmem : (ofUserMessage (smallServer groupContent) fromRelayer,
      persisting "bob" true) ∈
      (run (Service.step (smallServer groupContent)) (fresh ())
        [.applyUserMessage fromRelayer []]).journal := by decide
  obtain ⟨accountId, ho, hsender⟩ := h _ _ hmem rfl (by decide) (by decide)
  obtain rfl : accountId = "bob" := by
    injection ho with ho
    exact ho.symm
  exact absurd hsender (by decide)

end RezChat.Events
