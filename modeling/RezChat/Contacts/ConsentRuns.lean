/-
Consent to direct content, over whole runs.

A deposit is handled as content, as an event of a sibling device, as a transfer of facts or
as a group op. Content is the matter of the module before this one. An account-state event
may do anything to the contacts, so nothing may be filed for it afterwards. A transfer
applies facts, each of which is a deposit of its own. And a group op is settled by its
handler, as it is for the law about groups.
-/
import RezChat.Contacts.Block
import RezChat.Contacts.Consent

set_option autoImplicit false

namespace RezChat.Contacts

open Inbox (Frame trim trimmed trim_trim)
open Events Runs
open Events.Service
open Groups (Behind)
open Proc

variable {ω α : Type}

/-! ## The deposits that keep the law -/

/-- A transfer brings a fact. -/
def Transfers {σ : Type} (svc : Services σ) (p fact : Payload) : Prop :=
  ∃ w fates facts, (svc.openSiblingSync p fates w).outcome = .returned facts ∧ fact ∈ facts

/-- A fact that names a direct thread is one of an active contact, or foreign to the thread
whatever is stored of it. -/
def FactConsented (B : Backend ω) (groupOf : String → Option String) (fact : Payload)
    (w : World ω) : Prop :=
  groupOf (factDeposit (server B) fact).payloadThreadId = none →
    ActiveContact (factDeposit (server B) fact).payloadSender w ∨
      ∀ w' t, (server B).getThread w' (factDeposit (server B) fact).payloadThreadId = some t →
        t.threadType = .direct → foreignDirectThread (factDeposit (server B) fact) (some t) = true

/-- The deposits that keep the law about consent. -/
structure Consentable (B : Backend ω) (groupOf : String → Option String) (d : Deposit)
    (w : Groups.World (World ω)) : Prop where
  /-- Unless its thread is looked for without harm, nothing may be made of it. -/
  safe : SafelySought d w.rest
  /-- What is sent to a group may be held back, and looked for later. -/
  sincere : Sincere d ∨ groupOf d.payloadThreadId = none
  /-- The owner consents to what names a direct thread that is there. -/
  named : ∀ t, (server B).getThread w d.payloadThreadId = some t → t.threadType = .direct →
    foreignDirectThread d (some t) = false → Consents d w.rest
  /-- An account-state event is one of our own, or names neither a thread nor a sender. -/
  event : d.kind = some .accountStateEvent →
    d.origin = .accountStateKey ∨ (d.payloadThreadId = "" ∧ d.payloadSender = "")
  /-- A transfer is not for a group. -/
  sync : d.kind = some .siblingSync → groupOf d.payloadThreadId = none
  facts : d.kind = some .siblingSync → ∀ p fact, d.payload = some p →
    Transfers (server B) p fact → admissibleFact (server B) fact = true →
    FactConsented B groupOf fact w.rest

section Handling

variable {B : Backend ω} {W : World ω → Prop} {d : Deposit} {r : Resolved}
  {s : State (Audited (Groups.World (World ω)))} {re : Reentry (Audited (Groups.World (World ω)))}

/-- Consent outlasts the handling of what it was given to. -/
theorem consents_handling : KeptByHandling B d (Consents d) := by
  by_cases hk : d.kind = some .connectAccepted
  · have hsame : (Consents d : World ω → Prop) = MayWrite d.vouchedSender :=
      funext fun w => propext (or_congr_right (and_iff_right hk))
    rw [hsame]
    exact mayWrite_handling hk
  · have hsame : (Consents d : World ω → Prop) = ActiveContact d.vouchedSender :=
      funext fun w => propext (or_iff_left fun h => hk h.1)
    rw [hsame]
    exact active_moves.handling

variable (ids : ThreadIds (audited (server B)))

/-! ## Transfers -/

/-- **A fact** of a transfer is applied in accordance with the law. -/
theorem keeps_applyFact_consent {w₀ : World ω} (hW : KeptByAnswers W)
    (hstill : ∀ w, W w → StillActive w₀ w) {fact : Payload}
    (hfact : admissibleFact (server B) fact = true)
    (hconsent : FactConsented B ids.groupOf fact w₀) :
    Proc.Holds (ConsentBooks B ids.groupOf W) (applyFact (audited (server B)) false fact) := by
  unfold applyFact
  refine keeps_bind (Q := fun _ => True) (keeps_of_wp fun s hs => ?_)
    fun _ _ => holds_pure
  have hsincere : Sincere (factDeposit (server B) fact) := .inr rfl
  have hcontent : ∀ k, (factDeposit (server B) fact).kind = some k → k.controls = false := by
    intro k hk
    have horiginal := kind_factDeposit hfact hk
    cases k with
    | groupOp | accountStateEvent | siblingSync => exact absurd horiginal (by decide)
    | _ => rfl
  have hhandling : KeptByHandling B (factDeposit (server B) fact) W :=
    ⟨hW, fun hk => absurd (kind_factDeposit hfact hk) (by decide)⟩
  have hnamed : ∀ t, (server B).getThread s.world.world
      (factDeposit (server B) fact).payloadThreadId = some t → t.threadType = .direct →
      foreignDirectThread (factDeposit (server B) fact) (some t) = false →
      ActiveContact (factDeposit (server B) fact).vouchedSender s.world.world.rest := by
    intro t ht htype hown
    have hgroup : ids.groupOf (factDeposit (server B) fact).payloadThreadId = t.group :=
      ids.stored s.world _ t ht
    rw [Thread.group, if_neg (by rw [htype]; decide)] at hgroup
    rcases hconsent hgroup with hactive | hforeign
    · exact hstill _ hs.world _ hactive
    · exact absurd (hown.symm.trans (hforeign _ t ht htype)) Bool.false_ne_true
  refine wp_imp (wp_handleContent ids hhandling active_moves.handling hs
    (framed_factDeposit hfact) hcontent (fun _ h => h) (fun _ h => .inl h) (.inl hsincere)
    (.inl hsincere) hnamed false) ?_
  exact fun _ _ h => ⟨h, trivial⟩

/-- **A transfer.** -/
theorem wp_handleSync (hk : d.kind = some .siblingSync)
    (hs : ConsentBooks B ids.groupOf (fun _ => True) s) (hframed : Framed (audited (server B)) d)
    (hd : Consentable B ids.groupOf d s.world.world) :
    wp (handleMailboxDeposited (audited (server B)) d)
      (fun _ => ConsentBooks B ids.groupOf fun _ => True) (ConsentBooks B ids.groupOf fun _ => True)
      (ConsentBooks B ids.groupOf fun _ => True) s := by
  have hstill := stillActive_moves s.world.world.rest
  have hstart : ConsentBooks B ids.groupOf (StillActive s.world.world.rest) s :=
    ⟨hs.filings, hs.makings, fun _ h => h, hs.held⟩
  have hweaken : ∀ s', ConsentBooks B ids.groupOf (StillActive s.world.world.rest) s' →
      ConsentBooks B ids.groupOf (fun _ => True) s' :=
    fun s' h => Booked.mono h fun _ _ => trivial
  refine wp_mono (wp_handleWith_consent (A := Consents d) ids hstill.answers hstart hframed
    (fun _ _ h => .inl h) hd.safe (fun _ => hd.named) false ?_) (fun _ s' h => hweaken s' h)
    hweaken hweaken
  intro hh r s' hr hs'
  have hhold : Deferrable d r.thread → Holdable B ids.groupOf d := by
    intro hdefer
    have hnamed := named_of_deferrable ids hr hdefer
    rw [hd.sync hk] at hnamed
    exact absurd hnamed (by decide)
  refine wp_onward_consent ids hstill.handling consents_handling (fun _ h => h) false hh hr hhold
    ?_ hs'
  intro V hV hVstill _ _ k p hdk hp s₁ hs₁ _
  obtain rfl : k = .siblingSync := Option.some_inj.1 (hdk.symm.trans hk)
  have hcalls : ∀ s : State (Audited (Groups.World (World ω))), SyncCalls (audited (server B))
      .siblingSync fun w => ConsentBooks B ids.groupOf V { s with world := w } :=
    fun s => syncCalls_audited (syncCalls_server hV.answers.rest (by decide)) s
  -- the facts are those that the payload brings
  have hopen : Keeps (ConsentBooks B ids.groupOf V)
      (inWorld ((audited (server B)).openSiblingSync p))
      (fun facts => ∀ fact ∈ facts, Transfers (server B) p fact) := by
    refine keeps_of_wp fun s hs => ?_
    have hkept := (keeps_inWorld fun s => (hcalls s).openSync p).wp hs
    have hbrought : wp (inWorld ((audited (server B)).openSiblingSync p))
        (fun facts _ => ∀ fact ∈ facts, Transfers (server B) p fact) (fun _ => True)
        (fun _ => True) s := by
      refine wp_zoom (wp_zoom (wp_imp
        (wp_outcome ((server B).openSiblingSync p)) ?_))
      rintro facts _ ⟨fates, hfacts⟩ fact hfact
      exact ⟨_, fates, facts, hfacts, hfact⟩
    exact wp_mono (wp_and hkept hbrought) (fun _ _ h => ⟨h.1.1, h.2⟩) (fun _ h => h.1)
      (fun _ h => h.1)
  refine (keeps_always (keeps_dispatchSiblingSync_of hopen
    (fun _ => keeps_inWorld fun s => (hcalls s).admitFact _)
    (keeps_inWorld fun s => (hcalls s).closeSync p) ?_)).wp hs₁
  exact fun fact htransfers hfact => keeps_applyFact_consent ids hV.answers hVstill hfact
    (hd.facts hk p fact hp htransfers hfact)

/-! ## Account-state events -/

/-- **An account-state event** is not filed in a direct thread, whatever it did to the
contacts. -/
theorem wp_handleEvent (hk : d.kind = some .accountStateEvent)
    (hs : ConsentBooks B ids.groupOf (fun _ => True) s) (hframed : Framed (audited (server B)) d)
    (hd : Consentable B ids.groupOf d s.world.world) :
    wp (handleMailboxDeposited (audited (server B)) d)
      (fun _ => ConsentBooks B ids.groupOf fun _ => True) (ConsentBooks B ids.groupOf fun _ => True)
      (ConsentBooks B ids.groupOf fun _ => True) s := by
  have htrue : KeptByMoves (fun _ => True) fun _ : World ω => True := keptByMoves_const True
  have hnobody : ∀ w : World ω, d.origin = .accountStateKey → ¬ ActiveContact d.vouchedSender w := by
    intro w horigin hactive
    rw [Deposit.vouchedSender, horigin] at hactive
    exact hactive.1 rfl
  -- no event is written with consent
  refine wp_handleWith_consent (A := fun _ => False) ids htrue.answers hs hframed ?_ hd.safe ?_
    false ?_
  · intro hne w hactive
    rcases hd.event hk with horigin | ⟨-, hblank⟩
    · exact hnobody w horigin hactive
    · exact hne hblank
  · intro hne t ht htype hown
    rcases hd.event hk with horigin | ⟨hblank, -⟩
    · rcases hd.named t ht htype hown with hactive | ⟨hk', -⟩
      · exact hnobody _ horigin hactive
      · exact absurd (hk.symm.trans hk') (by decide)
    · exact hne hblank
  · intro hh r s' hr hs'
    have hlaw : foreignDirectThread d r.thread = false → ∀ w : Groups.World (World ω), True →
        ConsentLaw ids.groupOf d r.threadId w :=
      fun hown w _ hne hnone => (hs'.world.2 hown hne hnone).elim
    have hhold : Deferrable d r.thread → Holdable B ids.groupOf d := by
      intro hdefer
      have hnamed := named_of_deferrable ids hr hdefer
      rcases hd.event hk with horigin | ⟨hblank, -⟩
      · -- its envelope names no sender
        unfold Framed at hframed
        rw [horigin] at hframed
        exact absurd hframed hdefer.1
      · rw [hblank, ids.nowhere] at hnamed
        exact absurd hnamed (by decide)
    refine wp_imp ((keeps_onward_consent ids htrue.handling false hh hr hhold hlaw ?_).wp
      (ConsentBooks.left hs')) (fun _ _ h => h.1)
    · intro _ k p hdk _ s₁ hs₁ _
      obtain rfl : k = .accountStateEvent := Option.some_inj.1 (hdk.symm.trans hk)
      have hcalls : SyncCalls (server B) .accountStateEvent
          (Behind fun _ : World ω => True) := syncCalls_of_blind fun _ _ h => h
      exact (keeps_always (keeps_inWorld fun s =>
        (syncCalls_audited hcalls s).accountState rfl p)).wp hs₁

/-! ## Group ops -/

/-- **A group op** that is settled. -/
theorem ends_handleOp_consent (hk : d.kind = some .groupOp) {fates : List Fate}
    (hs : ConsentBooks B ids.groupOf (fun _ => True) s) (hframed : Framed (audited (server B)) d)
    (hd : Consentable B ids.groupOf d s.world.world)
    (hok : OpSettled (server B) (ConsentLaw ids.groupOf) d fates s) :
    Ends (handleMailboxDeposited (audited (server B)) d)
      (fun _ _ => ConsentBooks B ids.groupOf fun _ => True)
      (fun _ => ConsentBooks B ids.groupOf fun _ => True)
      (fun _ => ConsentBooks B ids.groupOf fun _ => True) fates s := by
  have hpermitted : ∀ threadId : String, KeptByMoves (fun _ => True) fun w : World ω =>
      threadId ≠ "" → ids.groupOf threadId = none → ActiveContact d.vouchedSender w := fun threadId =>
    KeptByMoves.forall (W := fun (_ : threadId ≠ "") w => ids.groupOf threadId = none →
      ActiveContact d.vouchedSender w) fun _ => KeptByMoves.forall
      (W := fun (_ : ids.groupOf threadId = none) w => ActiveContact d.vouchedSender w)
      fun _ => active_moves
  have hcontent : ∀ threadId, KeptByContent (server B) threadId (Behind fun w : World ω =>
      threadId ≠ "" → ids.groupOf threadId = none → ActiveContact d.vouchedSender w) :=
    fun threadId =>
      { admits := fun _ => admitCalls_server (hpermitted threadId).rest
        handler := fun _ _ => contentCalls_server (hpermitted threadId).answers fun _ a =>
          keeps_handleIncomingConnectRequest (hpermitted threadId) trivial a
        filed := filed_server (hpermitted threadId).rest
        follow := filingCalls_server (hpermitted threadId).rest }
  -- no group op is the acceptance of a request
  have hlaw : ∀ threadId w, Behind (fun w : World ω => threadId ≠ "" →
      ids.groupOf threadId = none → ActiveContact d.vouchedSender w) w ↔
      ConsentLaw ids.groupOf d threadId w := by
    intro threadId w
    refine forall_congr' fun _ => forall_congr' fun _ => (or_iff_left fun h => ?_).symm
    exact absurd (hk.symm.trans h.1) (by decide)
  have htrue : KeptByMoves (fun _ => True) fun _ : World ω => True := keptByMoves_const True
  have hresolve := wp_resolveThread (A := Consents d) ids htrue.answers hs hframed
    (fun _ _ h => .inl h) hd.safe (fun _ => hd.named)
  refine ends_handleMailboxDeposited_groupOp hcontent hlaw (keeps_flush_consent ids) hk ?_
    (groupOpCalls_of_blind fun _ _ h => h) hok hs
  exact wp_imp hresolve (fun _ _ h => ⟨ConsentBooks.left h.1, h.2⟩)

/-- **The handling of a deposit that keeps the law.** -/
theorem handleMailboxDeposited_consent {fates : List Fate}
    (hs : ConsentBooks B ids.groupOf (fun _ => True) s) (hframed : Framed (audited (server B)) d)
    (hd : Consentable B ids.groupOf d s.world.world)
    (hok : OpSettled (server B) (ConsentLaw ids.groupOf) d fates s) :
    ConsentBooks B ids.groupOf (fun _ => True)
      (handleMailboxDeposited (audited (server B)) d fates s).state := by
  by_cases hop : d.kind = some .groupOp
  · exact Proc.Ends.state (ends_handleOp_consent ids hop hs hframed hd hok)
  by_cases hevent : d.kind = some .accountStateEvent
  · exact wp_ending (wp_handleEvent ids hevent hs hframed hd) fates
  by_cases hsync : d.kind = some .siblingSync
  · exact wp_ending (wp_handleSync ids hsync hs hframed hd) fates
  · have hk : ∀ k, d.kind = some k → k.controls = false := by
      intro k hk
      cases k with
      | groupOp => exact absurd hk hop
      | accountStateEvent => exact absurd hk hevent
      | siblingSync => exact absurd hk hsync
      | _ => rfl
    have htrue : KeptByMoves (fun _ => True) fun _ : World ω => True := keptByMoves_const True
    exact wp_ending (wp_handleContent ids htrue.handling consents_handling
      hs hframed hk (fun _ h => .inl h) (fun _ h => h) hd.sincere hd.safe hd.named false) fates

end Handling

/-! ## Runs -/

/-- A step keeps the law: the deposit it brings is in order at that moment, and a group op
is settled. -/
def KeepsConsent (B : Backend ω) (groupOf : String → Option String) (d : Deposit) :
    Moment (State (Audited (Groups.World (World ω)))) := fun fates s =>
  Consentable B groupOf d s.world.world ∧
    OpSettled (server B) (ConsentLaw groupOf) d fates s

theorem consent_step {B : Backend ω} (ids : ThreadIds (audited (server B)))
    {s : State (Audited (Groups.World (World ω)))} {op : Service.Op (Groups.World (World ω))}
    (hs : ConsentBooks B ids.groupOf (fun _ => True) s)
    (hop : op.Meets (server B) (KeepsConsent B ids.groupOf) s) :
    ConsentBooks B ids.groupOf (fun _ => True) (auditedStep (server B) s op) := by
  have hframed : op.Meets (server B) (fun d fates s => Framed (audited (server B)) d ∧
      KeepsConsent B ids.groupOf d fates s) s := by
    cases op with
    | processDeposit frame fates => exact ⟨framed_ofFrame frame, hop⟩
    | applyUserMessage m fates => exact ⟨framed_ofUserMessage m, hop⟩
    | elsewhere change => exact hop
    | restart => exact hop
  refine auditedStep_keeps hs ?_ (fun e => hs.noted e) ?_ (fun _ h => h.restarted) hframed
  · exact fun d fates hd => handleMailboxDeposited_consent ids hs hd.1 hd.2.1 hd.2.2
  · exact fun f => ⟨hs.filings, hs.makings, trivial, hs.held⟩

/-- The bytes `hi` are a message to the direct thread of `alice`, and the bytes `carol` one
that says it is of `carol`. -/
def directContent (b64 : String) : Option Payload :=
  if b64 = "hi" then
    some { kind := some "rez.chat.message.v1", threadId := some "th_alice", text := some "hi" }
  else if b64 = "carol" then
    some { kind := some "rez.chat.message.v1", senderAccountId := some "carol", text := some "hi" }
  else none

def directBackend : Backend Unit :=
  { plainBackend with
    base := { smallServer directContent with
      listPeerLinks := fun _ => [⟨"carol", "pl_carol", "inbox_carol"⟩]
      directThreadIdForPeerLink := fun _ _ => "th_carol" } }

def directIds : ThreadIds (audited (server directBackend)) where
  groupOf id := if id = "th_room" then some "room" else none
  stored _ _ _ h := group_stored h
  linked _ _ := rfl
  nowhere := group_nowhere

/-- `alice` is a contact of the owner, in this state. -/
def aliceStands (state : RelationshipState) : Groups.World (World Unit) :=
  ⟨OrdMap.empty, OrdMap.empty,
    ⟨OrdMap.empty.set "alice" ⟨none, "", state, 0, 0, none⟩, OrdMap.empty, [], ()⟩⟩

instance (a : String) (w : World ω) : Decidable (ActiveContact a w) :=
  inferInstanceAs (Decidable (_ ∧ _))

/-- **A thread is made for a stranger.** The gate asks about `alice`, who is an active
contact, and the thread is made for `carol`, whom her message names as its sender. -/
theorem stranger_isMade :
    ¬ ConsentKept directIds.groupOf (run (auditedStep (server directBackend))
      (unaudited (aliceStands .active))
      [.applyUserMessage ⟨"m", "seq:1", "carol", .peerLink "alice"⟩ []]) := by
  intro h
  have hmade : (run (auditedStep (server directBackend)) (unaudited (aliceStands .active))
      [.applyUserMessage ⟨"m", "seq:1", "carol", .peerLink "alice"⟩ []]).world.made.map
        (fun e => decide (ActiveContact e.1 e.2.rest)) = [false] := by decide
  obtain ⟨e, he, hinactive⟩ := List.mem_map.1 (hmade ▸ List.mem_singleton_self false)
  exact of_decide_eq_false hinactive (h.2 e he)

end RezChat.Contacts
