/-
The limits on recovery (`services/ServerPeerLinkProtocolService.js`).

Invites are minted at most so many a minute, and so far apart for one peer; invites of one sender
are let through so far apart; a sweep does not re-key a peer that was heard of a moment ago. All
four are kept by maps that are pruned by age and, above a cap, by the order in which keys were
first written. A key that is written again stays where it is, so the oldest key may have the
youngest time.

The markers of our own invites never reach the cap, since the window over all peers keeps them few:
the first two limits hold in every run. The other two hold as long as the cap drops nothing young.
-/
import RezChat.Lib.Window
import RezChat.PeerLinks.Recovery

set_option autoImplicit false

namespace RezChat.PeerLinks

open Inbox (trim)
open Window (Apart Bounded Covers Remembers)
open PeerLinks.Recovery (Input Tick)
open List OrdMap Event Runs Nat Prod Pairwise

/-! ## What happened -/

def Event.mint? : Event → Option (String × Int)
  | .minted peer _ atMs => some (peer, atMs)
  | _ => none

def Event.decryption? : Event → Option (String × Int)
  | .decrypted peer atMs => some (peer, atMs)
  | _ => none

def Event.attempt? : Event → Option (String × Int)
  | .attempted sender _ atMs => some (sender, atMs)
  | _ => none

def Event.rekey? : Event → Option (String × Int)
  | .answered inv atMs .accepted => some (inv.sender, atMs)
  | _ => none

/-- A mint that a sweep led to is not of a peer that was heard of in the guard time before. -/
def HealthyGuarded (later earlier : Event) : Prop :=
  ∀ peer atMs heardAtMs, later = .minted peer true atMs → earlier = .decrypted peer heardAtMs →
    heardAtMs + senderRecoveryHealthyGuardMs ≤ atMs

/-- Invites are minted at most so many in a window, and apart for each peer. -/
structure MintsLimited (log : List Event) : Prop where
  overall : Bounded recoveryInviteGlobalWindowMs recoveryInviteGlobalMax
    ((log.filterMap mint?).map snd)
  perPeer : Apart recoveryInviteTriggerCooldownMs (log.filterMap mint?)

/-- Invites of each sender are let through, and re-key the link, apart, and sweeps spare the
peers that were heard of. -/
structure RekeysLimited (log : List Event) : Prop where
  letThrough : Apart recoveryInviteTriggerCooldownMs (log.filterMap attempt?)
  rekeyed : Apart recoveryInviteTriggerCooldownMs (log.filterMap rekey?)
  healthy : log.Pairwise HealthyGuarded

/-! ## What the prunes may do -/

/-- Pruning the map drops nothing that is younger than `ms`. -/
def KeepsYoung (m : TimesByPeer) (nowMs maxAgeMs ms : Int) : Prop :=
  ∀ e ∈ m.entries, nowMs - e.2 < ms → (pruneStaleMap m nowMs maxAgeMs).get? e.1 = some e.2

instance (m : TimesByPeer) (nowMs maxAgeMs ms : Int) : Decidable (KeepsYoung m nowMs maxAgeMs ms) :=
  inferInstanceAs (Decidable (∀ e ∈ m.entries, _))

/-- The prunes of a step drop nothing that a limit still needs. -/
def Recovery.PrunesKeep (self : String) (s : Recovery) (t : Tick) : Prop :=
  match t.input with
  | .incoming inv =>
    s.takesUp self t.ready inv = true →
      KeepsYoung s.inboundRecoveryAtMsByPeer t.nowMs recoveryInviteTtlMs
        recoveryInviteTriggerCooldownMs
  | input =>
    input.sweeps self = true →
      KeepsYoung s.lastInboundDecryptAtMsByPeer t.nowMs (senderRecoveryHealthyGuardMs * 4)
        senderRecoveryHealthyGuardMs

instance (self : String) (s : Recovery) (t : Tick) : Decidable (s.PrunesKeep self t) := by
  obtain ⟨_, _, input⟩ := t
  cases input <;> exact inferInstanceAs (Decidable (_ → _))

section Prunes

variable {m : TimesByPeer} {nowMs maxAgeMs ms : Int} {log : List (String × Int)}

theorem Covers.pruneStaleMap (h : Covers ms nowMs m log) (hkeep : KeepsYoung m nowMs maxAgeMs ms) :
    Covers ms nowMs (pruneStaleMap m nowMs maxAgeMs) log :=
  h.kept fun k t hget hyoung => hkeep (k, t) (mem_entries_iff.2 hget) hyoung

/-- A map that is not over the cap keeps what is young. -/
theorem keepsYoung_of_size (h : (keepYoung m nowMs maxAgeMs).size ≤ recoveryMapMaxEntries) :
    KeepsYoung m nowMs maxAgeMs maxAgeMs := by
  intro e he hyoung
  rw [pruneStaleMap_of_size h]
  exact get?_keepYoung.2 ⟨mem_entries_iff.1 he, hyoung⟩

end Prunes

/-! ## Minting -/

/-- What the markers and the timestamps are, by the mints so far. -/
structure MintsInv (clock : Int) (markers : TimesByPeer) (timestamps : List Int)
    (mints : List (String × Int)) : Prop where
  past : ∀ peer t, (peer, t) ∈ mints → t ≤ clock
  remembers : Remembers recoveryInviteGlobalWindowMs clock (mints.map snd) timestamps
  bounded : Bounded recoveryInviteGlobalWindowMs recoveryInviteGlobalMax (mints.map snd)
  minted : ∀ peer t, markers.get? peer = some t → (peer, t) ∈ mints
  covers : Covers recoveryInviteTtlMs clock markers mints
  apart : Apart recoveryInviteTriggerCooldownMs mints

namespace MintsInv

variable {clock n : Int} {markers : TimesByPeer} {timestamps : List Int}
  {mints : List (String × Int)} {remote : String}

theorem empty (clock : Int) : MintsInv clock empty [] [] where
  past _ _ h := by cases h
  remembers _ _ := rfl
  bounded := Window.bounded_nil _ _
  minted _ _ h := by
    rw [get?_empty] at h
    cases h
  covers := Window.covers_nil
  apart := nil

theorem later (h : MintsInv clock markers timestamps mints) (hn : clock ≤ n) :
    MintsInv n markers timestamps mints where
  past peer t hmem := Int.le_trans (h.past peer t hmem) hn
  remembers := h.remembers.later hn
  bounded := h.bounded
  minted := h.minted
  covers := h.covers.later hn
  apart := h.apart

/-- The young markers are fewer than the cap: they are mints of the last five windows. -/
theorem few (h : MintsInv clock markers timestamps mints) :
    (keepYoung markers clock recoveryInviteTtlMs).size ≤ recoveryMapMaxEntries := by
  have hsize : (keepYoung markers clock recoveryInviteTtlMs).size ≤
      (mints.map snd).countP (Window.recent recoveryInviteTtlMs clock) := by
    refine Window.size_le_countP fun peer t hget => ?_
    obtain ⟨hmarker, hyoung⟩ := get?_keepYoung.1 hget
    exact ⟨h.minted peer t hmarker, hyoung⟩
  have hpast : ∀ t ∈ mints.map snd, t ≤ clock := by
    intro t ht
    obtain ⟨⟨peer, t'⟩, hmem, rfl⟩ := mem_map.1 ht
    exact h.past peer t' hmem
  have hspan := h.bounded.span hpast 5
  refine le_trans hsize (le_trans hspan ?_)
  decide

theorem pruneMarkers (h : MintsInv clock markers timestamps mints) :
    MintsInv clock (pruneStaleMap markers clock recoveryInviteTtlMs) timestamps mints :=
  { h with
    minted := fun peer t hget => h.minted peer t (get?_of_get?_pruneStaleMap hget).1
    covers := Covers.pruneStaleMap h.covers (keepsYoung_of_size h.few) }

theorem pruneTimestamps (h : MintsInv clock markers timestamps mints) :
    MintsInv clock markers
      (timestamps.filter fun t => decide (clock - t < recoveryInviteGlobalWindowMs)) mints :=
  { h with remembers := h.remembers.prune (Int.le_refl clock) }

/-- Both limits let one more mint through. -/
theorem mint (h : MintsInv clock markers timestamps mints)
    (hspaced : recently markers clock recoveryInviteTriggerCooldownMs remote = false)
    (hbelow : timestamps.length < recoveryInviteGlobalMax) :
    MintsInv clock (markers.set remote clock) (timestamps ++ [clock]) ((remote, clock) :: mints) where
  past peer t hmem := by
    rcases mem_cons.1 hmem with heq | hold
    · rw [(mk.inj heq).2]
    · exact h.past peer t hold
  remembers := h.remembers.record clock
  bounded := by
    refine h.bounded.record ?_
    rw [h.remembers clock (Int.le_refl clock)]
    exact lt_of_le_of_lt countP_le_length hbelow
  minted peer t hget := by
    rw [get?_set] at hget
    by_cases hpeer : peer = remote
    · rw [if_pos hpeer, Option.some_inj] at hget
      rw [hpeer, hget]
      exact mem_cons_self
    · rw [if_neg hpeer] at hget
      exact mem_cons_of_mem _ (h.minted peer t hget)
  covers := h.covers.write fun t hmem => h.past remote t hmem
  apart := h.apart.cons fun t hmem =>
    h.covers.apart (by decide) (recently_eq_false_iff.1 hspaced) hmem

end MintsInv

/-! ## Invites of others -/

/-- How far the invite that is being handled has come, by the ones that were let through. -/
def HandlingInv (clock : Int) (handling : Option Handling) (attempts rekeys : List (String × Int)) :
    Prop :=
  match handling with
  | none => rekeys.Sublist attempts
  | some ⟨inv, nowMs, .authorizing⟩ =>
    nowMs ≤ clock ∧ rekeys.Sublist attempts ∧
      ∀ t, (inv.sender, t) ∈ attempts → t + recoveryInviteTriggerCooldownMs ≤ nowMs
  | some ⟨inv, nowMs, .accepting⟩ =>
    ∃ before, attempts = (inv.sender, nowMs) :: before ∧ rekeys.Sublist before

/-- What the cooldowns are, by the invites that were let through. -/
structure InboundInv (clock : Int) (cooldowns : TimesByPeer) (handling : Option Handling)
    (attempts rekeys : List (String × Int)) : Prop where
  covers : Covers recoveryInviteTriggerCooldownMs clock cooldowns attempts
  apart : Apart recoveryInviteTriggerCooldownMs attempts
  handled : HandlingInv clock handling attempts rekeys

namespace InboundInv

variable {clock n nowMs : Int} {cooldowns : TimesByPeer} {handling : Option Handling}
  {attempts rekeys : List (String × Int)} {inv : RecoveryInvite}

theorem empty (clock : Int) : InboundInv clock empty none [] [] :=
  ⟨Window.covers_nil, nil, Sublist.slnil⟩

theorem later (h : InboundInv clock cooldowns handling attempts rekeys) (hn : clock ≤ n) :
    InboundInv n cooldowns handling attempts rekeys where
  covers := h.covers.later hn
  apart := h.apart
  handled := by
    have hhandled := h.handled
    unfold HandlingInv at hhandled ⊢
    split
    · exact hhandled
    · exact ⟨Int.le_trans hhandled.1 hn, hhandled.2⟩
    · exact hhandled

/-- Every re-key is of an invite that was let through. -/
theorem sublist (h : InboundInv clock cooldowns handling attempts rekeys) :
    rekeys.Sublist attempts := by
  have hhandled := h.handled
  unfold HandlingInv at hhandled
  split at hhandled
  · exact hhandled
  · exact hhandled.2.1
  · obtain ⟨before, hattempts, hsub⟩ := hhandled
    rw [hattempts]
    exact hsub.cons _

/-- The invite that is being handled is done with. -/
theorem dropped (h : InboundInv clock cooldowns handling attempts rekeys) :
    InboundInv clock cooldowns none attempts rekeys :=
  ⟨h.covers, h.apart, h.sublist⟩

theorem pruned (h : InboundInv clock cooldowns handling attempts rekeys)
    (hkeep : KeepsYoung cooldowns clock recoveryInviteTtlMs recoveryInviteTriggerCooldownMs) :
    InboundInv clock (pruneStaleMap cooldowns clock recoveryInviteTtlMs) handling attempts rekeys :=
  ⟨Covers.pruneStaleMap h.covers hkeep, h.apart, h.handled⟩

/-- The cooldown lets the sender through as far as the authorization. -/
theorem takenUp (h : InboundInv clock cooldowns handling attempts rekeys)
    (hspaced : recently cooldowns clock recoveryInviteTriggerCooldownMs inv.sender = false) :
    InboundInv clock cooldowns (some ⟨inv, clock, .authorizing⟩) attempts rekeys where
  covers := h.covers
  apart := h.apart
  handled := by
    refine ⟨Int.le_refl clock, h.sublist, fun t hmem => ?_⟩
    exact h.covers.apart (Int.le_refl _) (recently_eq_false_iff.1 hspaced) hmem

/-- The cooldown is committed, at the time that the handler read. -/
theorem committed
    (h : InboundInv clock cooldowns (some ⟨inv, nowMs, .authorizing⟩) attempts rekeys) :
    InboundInv clock (cooldowns.set inv.sender nowMs) (some ⟨inv, nowMs, .accepting⟩)
      ((inv.sender, nowMs) :: attempts) rekeys := by
  obtain ⟨-, hsub, hspaced⟩ := h.handled
  have hcool : 0 ≤ recoveryInviteTriggerCooldownMs := by decide
  refine ⟨h.covers.write fun t hmem => ?_, h.apart.cons hspaced, attempts, rfl, hsub⟩
  have := hspaced t hmem
  omega

theorem rekeyed (h : InboundInv clock cooldowns (some ⟨inv, nowMs, .accepting⟩) attempts rekeys) :
    InboundInv clock cooldowns none attempts ((inv.sender, nowMs) :: rekeys) where
  covers := h.covers
  apart := h.apart
  handled := by
    obtain ⟨before, hattempts, hsub⟩ := h.handled
    rw [hattempts]
    exact hsub.cons_cons _

end InboundInv

/-! ## Peers that were heard of -/

/-- What the times of decryption are, and that the sweeps so far spared who was heard of. -/
structure HealthyInv (clock : Int) (decrypts : TimesByPeer) (log : List Event) : Prop where
  past : ∀ peer t, (peer, t) ∈ log.filterMap decryption? → t ≤ clock
  covers : Covers senderRecoveryHealthyGuardMs clock decrypts (log.filterMap decryption?)
  healthy : log.Pairwise HealthyGuarded

namespace HealthyInv

variable {clock n : Int} {decrypts : TimesByPeer} {log : List Event} {peer : String} {e : Event}

theorem empty (clock : Int) : HealthyInv clock empty [] where
  past _ _ h := by cases h
  covers := Window.covers_nil
  healthy := nil

theorem later (h : HealthyInv clock decrypts log) (hn : clock ≤ n) : HealthyInv n decrypts log :=
  ⟨fun peer t hmem => Int.le_trans (h.past peer t hmem) hn, h.covers.later hn, h.healthy⟩

theorem pruned (h : HealthyInv clock decrypts log)
    (hkeep : KeepsYoung decrypts clock (senderRecoveryHealthyGuardMs * 4)
      senderRecoveryHealthyGuardMs) :
    HealthyInv clock (pruneStaleMap decrypts clock (senderRecoveryHealthyGuardMs * 4)) log :=
  ⟨h.past, Covers.pruneStaleMap h.covers hkeep, h.healthy⟩

/-- Something else happens. -/
theorem other (h : HealthyInv clock decrypts log) (hdec : e.decryption? = none)
    (hguard : ∀ earlier ∈ log, HealthyGuarded e earlier) : HealthyInv clock decrypts (e :: log) := by
  have hlog : (e :: log).filterMap decryption? = log.filterMap decryption? :=
    filterMap_cons_none hdec
  refine ⟨?_, ?_, pairwise_cons.2 ⟨hguard, h.healthy⟩⟩
  · rw [hlog]
    exact h.past
  · rw [hlog]
    exact h.covers

theorem decrypted (h : HealthyInv clock decrypts log) :
    HealthyInv clock (decrypts.set peer clock) (.decrypted peer clock :: log) where
  past peer' t hmem := by
    rcases mem_cons.1 hmem with heq | hold
    · rw [(mk.inj heq).2]
    · exact h.past peer' t hold
  covers := h.covers.write fun t hmem => h.past peer t hmem
  healthy := by
    refine pairwise_cons.2 ⟨fun earlier _ peer' atMs heardAtMs hlater => ?_, h.healthy⟩
    cases hlater

/-- A sweep mints for a peer that it finds silent. -/
theorem swept (h : HealthyInv clock decrypts log)
    (hsilent : recently decrypts clock senderRecoveryHealthyGuardMs peer = false) :
    HealthyInv clock decrypts (.minted peer true clock :: log) := by
  refine h.other rfl fun earlier hmem peer' atMs heardAtMs hlater hearlier => ?_
  obtain ⟨rfl, -, rfl⟩ := minted.inj hlater
  refine h.covers.apart (Int.le_refl _) (recently_eq_false_iff.1 hsilent) ?_
  refine mem_filterMap.2 ⟨earlier, hmem, ?_⟩
  rw [hearlier]
  rfl

end HealthyInv

/-! ## Steps -/

namespace Recovery

variable {self : String} {n nowMs : Int} {ready : Bool} {s : Recovery}

def MintsKept (n : Int) (s : Recovery) : Prop :=
  MintsInv n s.recoveryInviteAtMsByPeer s.recoveryInviteTimestamps (s.log.filterMap mint?)

def InboundKept (n : Int) (s : Recovery) : Prop :=
  InboundInv n s.inboundRecoveryAtMsByPeer s.handling (s.log.filterMap attempt?)
    (s.log.filterMap rekey?)

def HealthyKept (n : Int) (s : Recovery) : Prop :=
  HealthyInv n s.lastInboundDecryptAtMsByPeer s.log

theorem filterMap_ofSend {f : Event → Option (String × Int)}
    (hf : ∀ e, ofSend e = true → f e = none) {news : List Event}
    (hnews : ∀ e ∈ news, ofSend e = true) (log : List Event) :
    (news ++ log).filterMap f = log.filterMap f := by
  have hnone : news.filterMap f = [] :=
    filterMap_eq_nil_iff.2 fun e he => hf e (hnews e he)
  rw [filterMap_append, hnone, nil_append]

/-! ### Mints -/

theorem triggered_mints : Triggered n (MintsKept n) where
  markers _ hs := MintsInv.pruneMarkers hs
  timestamps _ hs := MintsInv.pruneTimestamps hs
  outstanding _ _ hs := hs
  mint _ _ _ _ hs hmint := MintsInv.mint hs hmint.spaced hmint.below

theorem MintsKept.act (hs : s.MintsKept nowMs) (hkeys : s.TrimmedKeys) (input : Input) :
    (s.act self nowMs ready input).MintsKept nowMs := by
  refine triggered_mints.act hs hkeys (fun _ => hs) (fun peer => ?_) (fun k reply => ?_)
    (fun inv _ => ?_) fun reply => ?_
  · rw [noteDecrypted]
    split_ifs <;> exact hs
  · obtain ⟨sends, news, heq, hnews⟩ := sendStep_eq s nowMs k reply
    rw [heq]
    have hlog : (news ++ s.log).filterMap mint? = s.log.filterMap mint? :=
      filterMap_ofSend (fun e he => by cases e <;> first | rfl | cases he) hnews s.log
    unfold MintsKept
    rw [hlog]
    exact hs
  · rcases handleIncoming_cases self nowMs ready inv s with
      ⟨-, heq⟩ | ⟨v, -, -, heq⟩ | ⟨-, ⟨-, heq⟩ | ⟨-, ⟨-, heq⟩ | ⟨-, heq⟩⟩⟩ <;> rw [heq] <;> exact hs
  · rcases handlingStep_cases reply s with
      heq | ⟨inv, nowMs, -, heq | ⟨v, -, heq⟩⟩ | ⟨inv, nowMs, -, heq⟩ <;> rw [heq] <;> exact hs

/-! ### Invites of others -/

theorem triggered_inbound : Triggered nowMs (InboundKept n) where
  markers _ hs := hs
  timestamps _ hs := hs
  outstanding _ _ hs := hs
  mint _ _ _ _ hs _ := hs

variable {inv : RecoveryInvite}

/-- An answer that does not re-key is no matter to the limits. -/
theorem rekey?_answered {atMs : Int} {v : Verdict} (hv : v ≠ .accepted) :
    (answered inv atMs v).rekey? = none := by
  cases v <;> first | rfl | exact absurd rfl hv

theorem InboundKept.note (hs : s.InboundKept n) {atMs : Int} {v : Verdict}
    (hv : v ≠ .accepted) : (s.note (.answered inv atMs v)).InboundKept n := by
  unfold InboundKept Recovery.note
  rw [filterMap_cons_none (rekey?_answered hv)]
  exact hs

theorem flaw_ne_accepted {v : Verdict} (h : inv.flaw self = some v) :
    v ≠ .accepted := by
  rw [RecoveryInvite.flaw] at h
  split_ifs at h <;> cases h <;> decide

theorem InboundKept.handleIncoming (hs : s.InboundKept nowMs) (inv : RecoveryInvite)
    (hkeep : s.takesUp self ready inv = true → KeepsYoung s.inboundRecoveryAtMsByPeer nowMs
      recoveryInviteTtlMs recoveryInviteTriggerCooldownMs) :
    (s.handleIncoming self nowMs ready inv).InboundKept nowMs := by
  rcases handleIncoming_cases self nowMs ready inv s with
    ⟨-, heq⟩ | ⟨v, -, hv, heq⟩ | ⟨htake, hrest⟩
  · rw [heq]
    exact hs
  · rw [heq]
    refine hs.note ?_
    rcases hv with rfl | hflaw
    · decide
    · exact flaw_ne_accepted hflaw
  · have hpruned : (s.pruneInbound nowMs).InboundKept nowMs := InboundInv.pruned hs (hkeep htake)
    rcases hrest with ⟨-, heq⟩ | ⟨hspaced, ⟨-, heq⟩ | ⟨-, heq⟩⟩
    · rw [heq]
      exact hpruned.note (by decide)
    · rw [heq]
      exact hpruned.note (by decide)
    · rw [heq]
      exact InboundInv.takenUp hpruned hspaced

theorem InboundKept.handlingStep (hs : s.InboundKept n) (reply : HandlingReply) :
    (s.handlingStep reply).InboundKept n := by
  rcases handlingStep_cases reply s with
    heq | ⟨inv, nowMs, hhandling, heq | ⟨v, hv, heq⟩⟩ | ⟨inv, nowMs, hhandling, heq⟩
  · rw [heq]
    exact hs
  · rw [InboundKept, hhandling] at hs
    rw [heq]
    exact InboundInv.committed hs
  · have hdropped : InboundKept n { s with handling := none } := InboundInv.dropped hs
    rw [heq]
    refine hdropped.note ?_
    rcases hv with rfl | rfl <;> decide
  · rw [heq]
    by_cases hv : reply.verdict = .accepted
    · rw [InboundKept, hhandling] at hs
      rw [hv]
      exact InboundInv.rekeyed hs
    · have hdropped : InboundKept n { s with handling := none } := InboundInv.dropped hs
      exact hdropped.note hv

variable {t : Tick}

theorem InboundKept.act (hs : s.InboundKept nowMs) (hkeys : s.TrimmedKeys)
    (ht : t.nowMs = nowMs) (hkeep : s.PrunesKeep self t) :
    (s.act self nowMs t.ready t.input).InboundKept nowMs := by
  refine triggered_inbound.act hs hkeys (fun _ => hs) (fun peer => ?_) (fun k reply => ?_)
    (fun inv hinv => ?_) fun reply => hs.handlingStep reply
  · rw [noteDecrypted]
    split_ifs <;> exact hs
  · obtain ⟨sends, news, heq, hnews⟩ := sendStep_eq s nowMs k reply
    rw [heq]
    unfold InboundKept
    rw [filterMap_ofSend (fun e he => by cases e <;> first | rfl | cases he) hnews s.log,
      filterMap_ofSend (fun e he => by cases e <;> first | rfl | cases he) hnews s.log]
    exact hs
  · unfold PrunesKeep at hkeep
    rw [hinv, ht] at hkeep
    exact hs.handleIncoming inv hkeep

/-! ### Sweeps -/

theorem triggered_healthy : Triggered nowMs (HealthyKept nowMs) where
  markers _ hs := hs
  timestamps _ hs := hs
  outstanding _ _ hs := hs
  mint s swept remote peerInboxId hs hmint := by
    cases swept with
    | true => exact HealthyInv.swept hs (hmint.silent rfl)
    | false =>
      refine HealthyInv.other hs rfl fun earlier _ peer atMs heardAtMs hlater => ?_
      cases hlater

/-- An event that is no mint of a sweep is no matter to the guard. -/
theorem healthyGuarded_of_ne {e earlier : Event} (he : e.mint? = none) :
    HealthyGuarded e earlier := by
  intro peer atMs heardAtMs hlater
  rw [hlater] at he
  cases he

theorem HealthyKept.note (hs : s.HealthyKept n) {e : Event} (hmint : e.mint? = none)
    (hdec : e.decryption? = none) : (s.note e).HealthyKept n :=
  HealthyInv.other hs hdec fun _ _ => healthyGuarded_of_ne hmint

theorem HealthyKept.act (hs : s.HealthyKept nowMs) (hkeys : s.TrimmedKeys)
    (ht : t.nowMs = nowMs) (hkeep : s.PrunesKeep self t) :
    (s.act self nowMs t.ready t.input).HealthyKept nowMs := by
  refine triggered_healthy.act hs hkeys (fun hsweeps => ?_) (fun peer => ?_) (fun k reply => ?_)
    (fun inv hinv => ?_) fun reply => ?_
  · refine HealthyInv.pruned hs ?_
    rw [← ht]
    unfold PrunesKeep at hkeep
    split at hkeep
    · next hinput =>
      rw [hinput] at hsweeps
      cases hsweeps
    · exact hkeep hsweeps
  · rw [noteDecrypted]
    split_ifs
    · exact hs
    · exact HealthyInv.decrypted hs
  · obtain ⟨sends, news, heq, hnews⟩ := sendStep_eq s nowMs k reply
    rw [heq]
    clear heq
    induction news with
    | nil => exact hs
    | cons e news ih =>
      have hrest := ih fun e' he' => hnews e' (mem_cons_of_mem e he')
      have he := hnews e mem_cons_self
      refine HealthyInv.other hrest ?_ fun _ _ => healthyGuarded_of_ne ?_
      · cases e <;> first | rfl | cases he
      · cases e <;> first | rfl | cases he
  · rcases handleIncoming_cases self nowMs t.ready inv s with
      ⟨-, heq⟩ | ⟨v, -, -, heq⟩ | ⟨-, ⟨-, heq⟩ | ⟨-, ⟨-, heq⟩ | ⟨-, heq⟩⟩⟩ <;> rw [heq]
    · exact hs
    · exact hs.note rfl rfl
    · exact HealthyKept.note hs rfl rfl
    · exact HealthyKept.note hs rfl rfl
    · exact hs
  · rcases handlingStep_cases reply s with
      heq | ⟨inv, nowMs, -, heq | ⟨v, -, heq⟩⟩ | ⟨inv, nowMs, -, heq⟩ <;> rw [heq]
    · exact hs
    · exact HealthyKept.note hs rfl rfl
    · exact HealthyKept.note hs rfl rfl
    · exact HealthyKept.note hs rfl rfl

/-! ### Runs -/

/-- What is kept in every run whose clock does not go back. -/
structure MintsRun (s : Recovery) : Prop where
  keys : s.TrimmedKeys
  mints : s.MintsKept s.clockMs

/-- What is kept as long as the prunes keep what is young. -/
structure RekeysRun (s : Recovery) : Prop where
  keys : s.TrimmedKeys
  inbound : s.InboundKept s.clockMs
  healthy : s.HealthyKept s.clockMs

theorem mintsRun_fresh (start : Int) : (fresh start).MintsRun :=
  ⟨trimmedKeys_fresh start, MintsInv.empty start⟩

theorem rekeysRun_fresh (start : Int) : (fresh start).RekeysRun :=
  ⟨trimmedKeys_fresh start, InboundInv.empty start, HealthyInv.empty start⟩

theorem MintsRun.step (hs : s.MintsRun) (hclock : s.Monotone t) :
    (step self s t).MintsRun := by
  have hkeys : ({ s with clockMs := t.nowMs } : Recovery).TrimmedKeys := hs.keys
  have hmints : ({ s with clockMs := t.nowMs } : Recovery).MintsKept t.nowMs := hs.mints.later hclock
  refine ⟨hkeys.act t.input, ?_⟩
  rw [Recovery.step, act_clockMs hkeys]
  exact hmints.act hkeys t.input

theorem RekeysRun.step (hs : s.RekeysRun) (hclock : s.Monotone t)
    (hkeep : s.PrunesKeep self t) : (step self s t).RekeysRun := by
  have hkeys : ({ s with clockMs := t.nowMs } : Recovery).TrimmedKeys := hs.keys
  have hinbound : ({ s with clockMs := t.nowMs } : Recovery).InboundKept t.nowMs :=
    hs.inbound.later hclock
  have hhealthy : ({ s with clockMs := t.nowMs } : Recovery).HealthyKept t.nowMs :=
    hs.healthy.later hclock
  -- the clock is not among what the prunes look at
  have hkeep' : ({ s with clockMs := t.nowMs } : Recovery).PrunesKeep self t := hkeep
  refine ⟨hkeys.act t.input, ?_, ?_⟩
  · rw [Recovery.step, act_clockMs hkeys]
    exact hinbound.act hkeys rfl hkeep'
  · rw [Recovery.step, act_clockMs hkeys]
    exact hhealthy.act hkeys rfl hkeep'

theorem MintsRun.limited (hs : s.MintsRun) : MintsLimited s.log := ⟨hs.mints.bounded, hs.mints.apart⟩

theorem RekeysRun.limited (hs : s.RekeysRun) : RekeysLimited s.log where
  letThrough := hs.inbound.apart
  rekeyed := sublist hs.inbound.sublist hs.inbound.apart
  healthy := hs.healthy.healthy

/-- **The limits on recovery.** With a clock that does not go back, the limits on minting hold in
every run; and those on re-keying do, if no prune drops by the cap what is young. -/
theorem recovery_limited (self : String) (start : Int) (ticks : List Tick)
    (hclock : Runs.Meets (step self) Monotone (fresh start) ticks) :
    MintsLimited (run (step self) (fresh start) ticks).log ∧
      (Runs.Meets (step self) (PrunesKeep self) (fresh start) ticks →
        RekeysLimited (run (step self) (fresh start) ticks).log) := by
  constructor
  · have hrun : (run (step self) (fresh start) ticks).MintsRun :=
      invariant (step self) (fun s t hs hok => hs.step hok) ticks (fresh start)
        (mintsRun_fresh start) hclock
    exact hrun.limited
  · intro hkeep
    have hrun : (run (step self) (fresh start) ticks).RekeysRun :=
      invariant (step self) (fun s t hs hok => hs.step hok.1 hok.2) ticks (fresh start)
        (rekeysRun_fresh start) (Runs.Meets.and (step self) ticks hclock hkeep)
    exact hrun.limited

/-- A small run in which every limit has something to limit. -/
theorem recovery_limited_small :
    MintsLimited (run (step "ann") (fresh 0)
      [⟨0, true, .decrypted "bob"⟩, ⟨1, true, .trigger "bob" "inbox"⟩,
        ⟨2, true, .incoming ⟨true, "sig", "cy", "cy", "i1"⟩⟩,
        ⟨3, true, .handlingStep (.authorized true)⟩, ⟨4, true, .sweep⟩]).log ∧
    RekeysLimited (run (step "ann") (fresh 0)
      [⟨0, true, .decrypted "bob"⟩, ⟨1, true, .trigger "bob" "inbox"⟩,
        ⟨2, true, .incoming ⟨true, "sig", "cy", "cy", "i1"⟩⟩,
        ⟨3, true, .handlingStep (.authorized true)⟩, ⟨4, true, .sweep⟩]).log :=
  ⟨(recovery_limited "ann" 0 _ (by decide)).1, (recovery_limited "ann" 0 _ (by decide)).2 (by decide)⟩

/-! ## A crowd of senders -/

/-- An invite that nothing is wrong with. -/
def inviteOf (sender : String) : RecoveryInvite := ⟨true, "sig", sender, sender, "invite"⟩

/-- The invite of a sender comes in, is authorized, and re-keys the link. -/
def rekeyTicks (sender : String) : List Tick :=
  [⟨0, true, .incoming (inviteOf sender)⟩, ⟨0, true, .handlingStep (.authorized true)⟩,
    ⟨0, true, .handlingStep .accepted⟩]

theorem run_rekeyTicks {sender : String} (hclock : s.clockMs = 0) (hidle : s.handling = none)
    (hmarkers : s.recoveryInviteAtMsByPeer = empty) (htrim : trim sender = sender)
    (hsender : sender ≠ "" ∧ sender ≠ self)
    (hspaced : recently (pruneStaleMap s.inboundRecoveryAtMsByPeer 0 recoveryInviteTtlMs) 0
      recoveryInviteTriggerCooldownMs sender = false) :
    run (step self) s (rekeyTicks sender) =
      { s with
        inboundRecoveryAtMsByPeer :=
          (pruneStaleMap s.inboundRecoveryAtMsByPeer 0 recoveryInviteTtlMs).set sender 0
        log := .answered (inviteOf sender) 0 .accepted :: .attempted sender "invite" 0 :: s.log } := by
  have hname : (inviteOf sender).sender = sender := htrim
  have hbody : ¬((inviteOf sender).hasEnvelope = false ∨ (inviteOf sender).signatureB64 = "") := by
    show ¬(true = false ∨ "sig" = "")
    decide
  have hflaw : (inviteOf sender).flaw self = none := by
    rw [RecoveryInvite.flaw, if_neg hbody, hname, if_neg (not_or.2 hsender)]
    exact if_neg fun h => h htrim
  have hours : (s.pruneInbound 0).haveOutstanding self 0 sender = false := by
    rw [haveOutstanding, pruneInbound, hmarkers]
    rfl
  have hself : ({ s with clockMs := 0 } : Recovery) = s := by
    rw [← hclock]
  have hincoming : step self s ⟨0, true, .incoming (inviteOf sender)⟩ =
      { s.pruneInbound 0 with handling := some ⟨inviteOf sender, 0, .authorizing⟩ } := by
    rw [step, hself]
    dsimp only [act]
    rw [handleIncoming, hidle, hflaw, hname]
    exact (if_neg (Bool.eq_false_iff.1 hspaced)).trans (if_neg (Bool.eq_false_iff.1 hours))
  have hrest : run (step self)
      { s.pruneInbound 0 with handling := some ⟨inviteOf sender, 0, .authorizing⟩ }
      [⟨0, true, .handlingStep (.authorized true)⟩, ⟨0, true, .handlingStep .accepted⟩] =
      { s with
        clockMs := 0
        handling := none
        inboundRecoveryAtMsByPeer :=
          (pruneStaleMap s.inboundRecoveryAtMsByPeer 0 recoveryInviteTtlMs).set
            (inviteOf sender).sender 0
        log := .answered (inviteOf sender) 0 .accepted ::
          .attempted (inviteOf sender).sender "invite" 0 :: s.log } := rfl
  rw [rekeyTicks, run_cons, hincoming, hrest, hname, ← hidle, ← hclock]

/-- The senders of the crowd. -/
def crowdName (i : Nat) : String := String.ofList (replicate (i + 1) 'x')

theorem trim_crowdName (i : Nat) : trim (crowdName i) = crowdName i := by
  rw [crowdName, trim, String.toList_ofList, RezChat.Inbox.trimList_of_all]
  intro c hc
  rw [(mem_replicate.1 hc).2]
  rfl

theorem crowdName_ne_empty (i : Nat) : crowdName i ≠ "" := by
  intro hempty
  have hlist := congrArg String.toList hempty
  rw [crowdName, String.toList_ofList] at hlist
  cases hlist

theorem crowdName_injective {i j : Nat} (h : crowdName i = crowdName j) : i = j := by
  have hlist : replicate (i + 1) 'x' = replicate (j + 1) 'x' := by
    have htext := congrArg String.toList h
    rwa [crowdName, crowdName, String.toList_ofList, String.toList_ofList] at htext
  have hlength := congrArg length hlist
  rw [length_replicate, length_replicate] at hlength
  exact succ.inj hlength

/-- The first `k` of the crowd, one after the other. -/
def crowdTicks (k : Nat) : List Tick := (range k).flatMap fun i => rekeyTicks (crowdName i)

/-- The first `k` of the crowd have been let through. -/
structure Crowded (k : Nat) (s : Recovery) : Prop where
  clock : s.clockMs = 0
  idle : s.handling = none
  markers : s.recoveryInviteAtMsByPeer = empty
  cooldowns : s.inboundRecoveryAtMsByPeer.entries = (range k).map fun i => (crowdName i, 0)
  letThrough : ∀ i < k, (crowdName i, 0) ∈ s.log.filterMap attempt?

variable {k : Nat}

/-- Nothing is old yet. -/
theorem Crowded.keepYoung (h : Crowded k s) :
    keepYoung s.inboundRecoveryAtMsByPeer 0 recoveryInviteTtlMs = s.inboundRecoveryAtMsByPeer := by
  refine ext ?_
  refine (filterMap_congr fun e he => ?_).trans filterMap_some
  rw [h.cooldowns] at he
  obtain ⟨i, -, rfl⟩ := mem_map.1 he
  rfl

theorem Crowded.size (h : Crowded k s) : s.inboundRecoveryAtMsByPeer.size = k := by
  rw [OrdMap.size, h.cooldowns, length_map, length_range]

theorem Crowded.notMem {k i : Nat} (h : Crowded k s) (hi : k ≤ i) :
    crowdName i ∉ s.inboundRecoveryAtMsByPeer.entries.map fst := by
  rw [h.cooldowns, List.map_map]
  intro hmem
  obtain ⟨j, hj, heq⟩ := mem_map.1 hmem
  have := mem_range.1 hj
  have := crowdName_injective heq
  omega

/-- The next of the crowd is let through. -/
theorem Crowded.next (h : Crowded k s) (hk : k ≤ recoveryMapMaxEntries)
    (hself : ∀ i, crowdName i ≠ self) :
    Crowded (k + 1) (run (step self) s (rekeyTicks (crowdName k))) := by
  have hprune : pruneStaleMap s.inboundRecoveryAtMsByPeer 0 recoveryInviteTtlMs =
      s.inboundRecoveryAtMsByPeer := by
    rw [pruneStaleMap_of_size, h.keepYoung]
    rw [h.keepYoung, h.size]
    exact hk
  have hnew : s.inboundRecoveryAtMsByPeer.get? (crowdName k) = none := by
    refine Option.eq_none_iff_forall_ne_some.2 fun t hget => h.notMem (le_refl k) ?_
    exact mem_map.2 ⟨(crowdName k, t), mem_entries_iff.2 hget, rfl⟩
  have hspaced : recently (pruneStaleMap s.inboundRecoveryAtMsByPeer 0 recoveryInviteTtlMs) 0
      recoveryInviteTriggerCooldownMs (crowdName k) = false := by
    rw [hprune, recently, hnew]
  rw [run_rekeyTicks h.clock h.idle h.markers (trim_crowdName k)
    ⟨crowdName_ne_empty k, hself k⟩ hspaced, hprune]
  exact {
    clock := h.clock
    idle := h.idle
    markers := h.markers
    cooldowns := by
      rw [range_succ, map_append, ← h.cooldowns]
      exact setEntry_of_notMem 0 (h.notMem (le_refl k))
    letThrough := fun i hi => by
      rcases Nat.lt_succ_iff_lt_or_eq.1 hi with hlt | rfl
      · exact mem_cons_of_mem _ (h.letThrough i hlt)
      · exact mem_cons_self }

theorem crowded_run (hself : ∀ i, crowdName i ≠ self) : ∀ k ≤ recoveryMapMaxEntries + 1,
    Crowded k (run (step self) (fresh 0) (crowdTicks k))
  | 0, _ => ⟨rfl, rfl, rfl, rfl, fun i hi => absurd hi (not_lt_zero i)⟩
  | k + 1, hk => by
    rw [crowdTicks, range_succ, flatMap_append, run_append, flatMap_singleton]
    exact (crowded_run hself k (le_of_succ_le hk)).next (le_of_succ_le_succ hk) hself

/-- The crowd is one more than the cap, and the first of it is forgotten. -/
theorem Crowded.forgotten (h : Crowded (k + 1) s) (hk : k = recoveryMapMaxEntries) :
    recently (pruneStaleMap s.inboundRecoveryAtMsByPeer 0 recoveryInviteTtlMs) 0
      recoveryInviteTriggerCooldownMs (crowdName 0) = false := by
  rw [recently_eq_false_iff]
  intro t hget
  rw [pruneStaleMap, h.keepYoung, h.size, ← hk, if_pos (Nat.lt_succ_self k),
    Nat.add_sub_cancel_left] at hget
  have hmem : (crowdName 0, t) ∈ s.inboundRecoveryAtMsByPeer.entries.drop 1 :=
    mem_entries_iff.2 hget
  rw [h.cooldowns, range_succ_eq_map, map_cons, drop_one, tail_cons,
    List.map_map] at hmem
  obtain ⟨i, -, heq⟩ := mem_map.1 hmem
  have := crowdName_injective (Prod.mk.inj heq).1
  omega

/-- The clock stands still in a run at one time. -/
theorem monotone_of_forall {n : Int} : ∀ (ticks : List Tick) (s : Recovery), s.TrimmedKeys →
    s.clockMs = n → (∀ t ∈ ticks, t.nowMs = n) → Meets (step self) Monotone s ticks
  | [], _, _, _, _ => trivial
  | t :: ticks, s, hkeys, hclock, hticks => by
    have ht := hticks t mem_cons_self
    have hkeys' : ({ s with clockMs := t.nowMs } : Recovery).TrimmedKeys := hkeys
    refine ⟨?_, monotone_of_forall ticks _ (hkeys'.act t.input) ?_ fun t' ht' =>
      hticks t' (mem_cons_of_mem t ht')⟩
    · rw [Monotone, hclock, ht]
    · rw [step, act_clockMs hkeys', ht]

theorem nowMs_of_mem_rekeyTicks {sender : String} (h : t ∈ rekeyTicks sender) :
    t.nowMs = 0 := by
  rcases mem_cons.1 h with rfl | h
  · rfl
  · rcases mem_cons.1 h with rfl | h
    · rfl
    · rw [mem_singleton.1 h]

/-- After a crowd that is one more than the cap, its first sender is let through at once. -/
theorem crowd_lets_through : ¬∀ (self : String) (start : Int) (ticks : List Tick),
    Runs.Meets (step self) Monotone (fresh start) ticks →
      MintsLimited (run (step self) (fresh start) ticks).log ∧
        RekeysLimited (run (step self) (fresh start) ticks).log := by
  intro hclaim
  obtain ⟨k, hk⟩ : ∃ k, k = recoveryMapMaxEntries := ⟨_, rfl⟩
  have hcrowd := crowded_run crowdName_ne_empty (k + 1) (by rw [hk])
  have hmono : Runs.Meets (step "") Monotone (fresh 0)
      (crowdTicks (k + 1) ++ rekeyTicks (crowdName 0)) := by
    refine monotone_of_forall _ _ (trimmedKeys_fresh 0) rfl fun t ht => ?_
    rcases List.mem_append.1 ht with ht | ht
    · obtain ⟨i, -, hi⟩ := mem_flatMap.1 ht
      exact nowMs_of_mem_rekeyTicks hi
    · exact nowMs_of_mem_rekeyTicks ht
  have happart := (hclaim "" 0 _ hmono).2.letThrough
  rw [run_append, run_rekeyTicks hcrowd.clock hcrowd.idle hcrowd.markers (trim_crowdName 0)
    ⟨crowdName_ne_empty 0, crowdName_ne_empty 0⟩ (hcrowd.forgotten hk)] at happart
  -- the first sender is let through twice, and no time has passed
  have hearlier := hcrowd.letThrough 0 (succ_pos k)
  have hgap := (pairwise_cons.1 happart).1 _ hearlier rfl
  exact absurd hgap (by decide)

end Recovery

end RezChat.PeerLinks
