/-
Invites that are swallowed (`services/ServerPeerLinkProtocolService.js`).

Both sides of a broken link may invite each other. An inbound invite is dropped for good if an
invite of ours to the sender is outstanding and ours is the one that stands, or if an invite of
the sender was taken in a moment ago. Each is a good reason to drop it only if it is what it is
taken for: an invite that was sent, and another invite that was processed.

What the handler looks at is a marker that is written before the send begins and stays if the send
fails, and a cooldown that is written before the accepting and stays if that fails. Where neither
has misled it so, no invite is dropped without a reason.
-/
import RezChat.PeerLinks.Recovery

set_option autoImplicit false

namespace RezChat.PeerLinks

open Inbox (trim)
open PeerLinks.Recovery (Input Tick ofSend step fresh)
open List Option OrdMap Runs

/-- An invite with this verdict was handed to the SDK to be accepted. -/
def Verdict.processed : Verdict → Bool
  | .accepted | .expired | .signatureInvalid | .acceptError => true
  | _ => false

/-! ## Reasons -/

/-- What has to have happened before, for an invite to be answered so. An invite that is dropped
as flawed is flawed. One that is deferred to ours crossed one that was dispatched to its sender;
one that is throttled came after another of its sender, or after it was decided on itself. -/
def Reason (self : String) (past : List Event) (inv : RecoveryInvite) (atMs : Int) : Verdict → Prop
  | .malformed | .badSender | .signerMismatch => inv.flaw self ≠ none
  | .glareDeferred => ∃ inviteId mintedAtMs dispatchedAtMs,
      .dispatched inv.sender inviteId mintedAtMs dispatchedAtMs ∈ past ∧
        atMs - dispatchedAtMs < recoveryInviteTtlMs
  | .throttled => ∃ (other : RecoveryInvite) (t : Int) (v : Verdict), .answered other t v ∈ past ∧
      other.sender = inv.sender ∧ v.processed = true ∧
        atMs - t < recoveryInviteTriggerCooldownMs ∧
          (other.inviteId ≠ inv.inviteId ∨ v.consumed = true)
  | .unready | .unauthorized | .authorizationThrew | .acceptError => True
  | .expired | .signatureInvalid | .accepted => True

/-- Every invite that was answered was answered with reason. -/
def Reasoned (self : String) : List Event → Prop
  | [] => True
  | .answered inv atMs v :: past => Reason self past inv atMs v ∧ Reasoned self past
  | _ :: past => Reasoned self past

namespace Recovery

/-! ## What misleads the handler -/

/-- The attempt that set the cooldown of the sender was one of this very invite, and failed. -/
def ownFailure (inv : RecoveryInvite) (s : Recovery) : Bool :=
  match s.inboundRecoveryAtMsByPeer.get? inv.sender with
  | some atMs => s.log.any fun
    | .answered other t .acceptError =>
      decide (other.sender = inv.sender ∧ other.inviteId = inv.inviteId ∧ t = atMs)
    | _ => false
  | none => false

/-- The send that set the marker of the peer was aborted, or is under way. -/
def unsent (peer : String) (s : Recovery) : Bool :=
  match s.recoveryInviteAtMsByPeer.get? peer with
  | some atMs => decide (.aborted peer atMs ∈ s.log) ||
      s.sends.values.any fun send => decide (send.remote = peer ∧ send.mintedAtMs = atMs)
  | none => false

/-- The handler is not misled: the cooldown it stops at is not due to the invite itself having
failed, and the marker it stops at is of an invite that was sent. -/
def Unmisled (self : String) (s : Recovery) (t : Tick) : Prop :=
  match t.input with
  | .incoming inv => s.takesUp self t.ready inv = true →
      if recently (s.pruneInbound t.nowMs).inboundRecoveryAtMsByPeer t.nowMs
          recoveryInviteTriggerCooldownMs inv.sender = true then
        s.ownFailure inv = false
      else s.haveOutstanding self t.nowMs inv.sender = true → s.unsent inv.sender = false
  | _ => True

instance (self : String) (s : Recovery) (t : Tick) : Decidable (s.Unmisled self t) := by
  unfold Recovery.Unmisled
  split <;> infer_instance

/-! ## The fate of a send -/

/-- The invite that was minted for the peer at this time was dispatched since, its send was
aborted, or it is under way. -/
def Fate (peer : String) (mintedAtMs : Int) (s : Recovery) : Prop :=
  (∃ inviteId t, .dispatched peer inviteId mintedAtMs t ∈ s.log ∧ mintedAtMs ≤ t) ∨
  .aborted peer mintedAtMs ∈ s.log ∨
  ∃ n send, s.sends.get? n = some send ∧ send.remote = peer ∧ send.mintedAtMs = mintedAtMs

/-- What is known of the invite that set a cooldown. -/
def Origin (sender : String) (atMs : Int) (s : Recovery) : Prop :=
  (∃ inv, s.handling = some ⟨inv, atMs, .accepting⟩ ∧ inv.sender = sender) ∨
  ∃ inv v, .answered inv atMs v ∈ s.log ∧ inv.sender = sender ∧ Verdict.processed v = true

/-- What holds between two steps: every marker and every cooldown is accounted for. -/
structure Accounted (owner : String) (n : Int) (s : Recovery) : Prop where
  numbered : ∀ k send, s.sends.get? k = some send → k < s.started ∧ send.mintedAtMs ≤ n
  markers : ∀ peer t, s.recoveryInviteAtMsByPeer.get? peer = some t → Fate peer t s
  cooldowns : ∀ sender t, s.inboundRecoveryAtMsByPeer.get? sender = some t → Origin sender t s
  reasoned : Reasoned owner s.log

variable {self peer : String} {n nowMs t : Int} {ready : Bool} {s : Recovery}

theorem accounted_fresh (start : Int) : (fresh start).Accounted self n where
  numbered _ _ h := by cases h
  markers _ _ h := by cases h
  cooldowns _ _ h := by cases h
  reasoned := trivial

theorem Accounted.later {n' : Int} (hs : s.Accounted self n) (hn : n ≤ n') : s.Accounted self n' :=
  { hs with
    numbered := fun k send hget =>
      ⟨(hs.numbered k send hget).1, Int.le_trans (hs.numbered k send hget).2 hn⟩ }

/-- Nothing is taken back. -/
theorem Fate.mono {s' : Recovery} (h : Fate peer t s) (hlog : ∀ e ∈ s.log, e ∈ s'.log)
    (hsends : s'.sends = s.sends) : Fate peer t s' := by
  rcases h with ⟨inviteId, t', hmem, hle⟩ | habort | ⟨k, send, hget, hsend⟩
  · exact .inl ⟨inviteId, t', hlog _ hmem, hle⟩
  · exact .inr (.inl (hlog _ habort))
  · exact .inr (.inr ⟨k, send, hsends ▸ hget, hsend⟩)

theorem Origin.mono {s' : Recovery} (h : Origin peer t s) (hlog : ∀ e ∈ s.log, e ∈ s'.log)
    (hhandling : s'.handling = s.handling) : Origin peer t s' := by
  rcases h with ⟨inv, hinv, hsender⟩ | ⟨inv, v, hmem, hrest⟩
  · exact .inl ⟨inv, hhandling.trans hinv, hsender⟩
  · exact .inr ⟨inv, v, hlog _ hmem, hrest⟩

/-- Something happens that is no answer. -/
theorem Accounted.note (hs : s.Accounted self n) {e : Event}
    (he : Reasoned self (e :: s.log) ↔ Reasoned self s.log) : (s.note e).Accounted self n where
  numbered := hs.numbered
  markers peer t hget := (hs.markers peer t hget).mono (fun _ => mem_cons_of_mem e) rfl
  cooldowns sender t hget := (hs.cooldowns sender t hget).mono (fun _ => mem_cons_of_mem e) rfl
  reasoned := he.2 hs.reasoned

/-- An invite is answered with reason. -/
theorem Accounted.answered (hs : s.Accounted self n) {inv : RecoveryInvite} {atMs : Int}
    {v : Verdict} (hv : Reason self s.log inv atMs v) :
    (s.note (.answered inv atMs v)).Accounted self n :=
  hs.note ⟨fun h => h.2, fun h => ⟨hv, h⟩⟩

/-! ## Triggers -/

theorem triggered_accounted : Triggered n (Accounted self n) where
  markers s hs := { hs with markers := fun peer t hget => hs.markers peer t (get?_of_get?_pruneStaleMap hget).1 }
  timestamps _ hs := ⟨hs.numbered, hs.markers, hs.cooldowns, hs.reasoned⟩
  outstanding _ _ hs := ⟨hs.numbered, hs.markers, hs.cooldowns, hs.reasoned⟩
  mint s swept remote peerInboxId hs _ := {
    numbered := fun k send hget => by
      have hcase : ((s.sends.set s.started
        ⟨remote, n, firstStage n peerInboxId⟩).get? k) = some send := hget
      rw [get?_set] at hcase
      by_cases hk : k = s.started
      · rw [if_pos hk, some_inj] at hcase
        rw [← hcase]
        exact ⟨by rw [hk]; exact Nat.lt_succ_self _, Int.le_refl n⟩
      · rw [if_neg hk] at hcase
        exact ⟨Nat.lt_succ_of_lt (hs.numbered k send hcase).1, (hs.numbered k send hcase).2⟩
    markers := fun peer t hget => by
      have hcase : (s.recoveryInviteAtMsByPeer.set remote n).get? peer = some t := hget
      rw [get?_set] at hcase
      by_cases hpeer : peer = remote
      · rw [if_pos hpeer, some_inj] at hcase
        exact .inr (.inr ⟨s.started, _, get?_set_self _ _ _, hpeer.symm, hcase⟩)
      · rw [if_neg hpeer] at hcase
        rcases hs.markers peer t hcase with ⟨inviteId, t', hmem, hle⟩ | habort | ⟨k, send, hk, hsend⟩
        · exact .inl ⟨inviteId, t', mem_cons_of_mem _ hmem, hle⟩
        · exact .inr (.inl (mem_cons_of_mem _ habort))
        · -- the number of the new send was not taken
          have hne : k ≠ s.started := Nat.ne_of_lt (hs.numbered k send hk).1
          exact .inr (.inr ⟨k, send, (get?_set_of_ne _ _ hne).trans hk, hsend⟩)
    cooldowns := fun sender t hget =>
      (hs.cooldowns sender t hget).mono (fun _ => mem_cons_of_mem _) rfl
    reasoned := hs.reasoned }

/-! ## Sends -/

/-- Events of sends are no answers. -/
theorem reasoned_append {news log : List Event} (hnews : ∀ e ∈ news, ofSend e = true)
    (h : Reasoned self log) : Reasoned self (news ++ log) := by
  induction news with
  | nil => exact h
  | cons e news ih =>
    have hrest := ih fun e' he' => hnews e' (mem_cons_of_mem e he')
    have he := hnews e mem_cons_self
    cases e <;> first | exact hrest | cases he

section

variable (hs : s.Accounted self nowMs)
include hs

/-- A send goes on under its number. -/
theorem Accounted.goesOn {k : Nat} {send : Send} {stage : SendStage}
    {news : List Event} (hsend : s.sends.get? k = some send)
    (hnews : ∀ e ∈ news, ofSend e = true) :
    ({ s with
      sends := s.sends.set k { send with stage := stage }
      log := news ++ s.log } : Recovery).Accounted self nowMs := by
  have hlog : ∀ e ∈ s.log, e ∈ news ++ s.log := fun e he => mem_append_right news he
  refine ⟨fun j send' hget => ?_, fun peer t hget => ?_, fun sender t hget => ?_,
    reasoned_append hnews hs.reasoned⟩
  · have hcase : (s.sends.set k { send with stage := stage }).get? j = some send' := hget
    rw [get?_set] at hcase
    by_cases hj : j = k
    · rw [if_pos hj, some_inj] at hcase
      rw [hj, ← hcase]
      exact hs.numbered k send hsend
    · rw [if_neg hj] at hcase
      exact hs.numbered j send' hcase
  · rcases hs.markers peer t hget with ⟨inviteId, t', hmem, hle⟩ | habort | ⟨j, send', hj, hsend'⟩
    · exact .inl ⟨inviteId, t', hlog _ hmem, hle⟩
    · exact .inr (.inl (hlog _ habort))
    · by_cases hjk : j = k
      · have heq : send = send' := some_inj.1 (hsend.symm.trans (hjk ▸ hj))
        refine .inr (.inr ⟨k, { send with stage := stage }, get?_set_self _ _ _, ?_⟩)
        rw [heq]
        exact hsend'
      · exact .inr (.inr ⟨j, send', (get?_set_of_ne _ _ hjk).trans hj, hsend'⟩)
  · exact (hs.cooldowns sender t hget).mono hlog rfl

/-- A send comes to its end, and what it came to is noted. -/
theorem Accounted.ended {k : Nat} {send : Send} {e : Event}
    (hsend : s.sends.get? k = some send)
    (he : (∃ inviteId, e = .dispatched send.remote inviteId send.mintedAtMs nowMs) ∨
      e = .aborted send.remote send.mintedAtMs) :
    ({ s with sends := s.sends.delete k, log := e :: s.log } : Recovery).Accounted self nowMs := by
  have hof : ∀ e' ∈ [e], ofSend e' = true := by
    intro e' he'
    rw [mem_singleton.1 he']
    rcases he with ⟨inviteId, rfl⟩ | rfl <;> rfl
  refine ⟨fun j send' hget => ?_, fun peer t hget => ?_, fun sender t hget => ?_,
    reasoned_append hof hs.reasoned⟩
  · have hcase : (s.sends.delete k).get? j = some send' := hget
    rw [get?_delete] at hcase
    split_ifs at hcase
    exact hs.numbered j send' hcase
  · rcases hs.markers peer t hget with ⟨id, t', hmem, hle⟩ | habort | ⟨j, send', hj, hremote, hat⟩
    · exact .inl ⟨id, t', mem_cons_of_mem e hmem, hle⟩
    · exact .inr (.inl (mem_cons_of_mem e habort))
    · by_cases hjk : j = k
      · -- the marker is of this send
        have heq : send = send' := some_inj.1 (hsend.symm.trans (hjk ▸ hj))
        rw [← heq] at hremote hat
        rw [hremote, hat] at he
        rcases he with ⟨inviteId, rfl⟩ | rfl
        · refine .inl ⟨inviteId, nowMs, mem_cons_self, ?_⟩
          rw [← hat]
          exact (hs.numbered k send hsend).2
        · exact .inr (.inl mem_cons_self)
      · exact .inr (.inr ⟨j, send', (get?_delete_of_ne _ hjk).trans hj, hremote, hat⟩)
  · exact (hs.cooldowns sender t hget).mono (fun _ => mem_cons_of_mem e) rfl

theorem Accounted.sendStep (k : Nat) (reply : SendReply) :
    (s.sendStep nowMs k reply).Accounted self nowMs := by
  rw [Recovery.sendStep]
  cases hsend : s.sends.get? k with
  | none => exact hs
  | some send =>
    dsimp only
    split
    · refine hs.goesOn hsend fun e he => ?_
      unfold SendStage.marks at he
      split at he
      · rw [mem_singleton.1 he]
        rfl
      · cases he
    · next inviteId _ => exact hs.ended hsend (.inl ⟨inviteId, rfl⟩)
    · exact hs.ended hsend (.inr rfl)

end

/-! ## Invites that come in -/

theorem Accounted.pruneInbound (hs : s.Accounted self n) :
    (s.pruneInbound nowMs).Accounted self n :=
  { hs with
    cooldowns := fun sender t hget => hs.cooldowns sender t (get?_of_get?_pruneStaleMap hget).1 }

theorem flaw_consumed {inv : RecoveryInvite} {v : Verdict} (h : inv.flaw self = some v) :
    v = .malformed ∨ v = .badSender ∨ v = .signerMismatch := by
  rw [RecoveryInvite.flaw] at h
  split_ifs at h <;> cases h
  · exact .inl rfl
  · exact .inr (.inl rfl)
  · exact .inr (.inr rfl)

section

variable (hs : s.Accounted self n)
include hs

/-- A cooldown that is not due to the invite itself is due to another, or to its being decided. -/
theorem Accounted.throttled {inv : RecoveryInvite}
    (hidle : s.handling = none) (hown : s.ownFailure inv = false)
    (hcool : recently (s.pruneInbound nowMs).inboundRecoveryAtMsByPeer nowMs
      recoveryInviteTriggerCooldownMs inv.sender = true) :
    Reason self s.log inv nowMs .throttled := by
  obtain ⟨t, hget, hyoung⟩ := recently_eq_true_iff.1 hcool
  have hset := (get?_of_get?_pruneStaleMap hget).1
  rcases hs.cooldowns inv.sender t hset with ⟨other, hbusy, -⟩ | ⟨other, v, hmem, hsender, hv⟩
  · rw [hidle] at hbusy
    cases hbusy
  · refine ⟨other, t, v, hmem, hsender, hv, hyoung, ?_⟩
    by_cases hid : other.inviteId = inv.inviteId
    · refine .inr ?_
      rw [ownFailure, hset, List.any_eq_false] at hown
      have hnot := hown _ hmem
      cases v with
      | acceptError => exact absurd (decide_eq_true ⟨hsender, hid, rfl⟩) hnot
      | accepted => rfl
      | expired => rfl
      | signatureInvalid => rfl
      | malformed => cases hv
      | badSender => cases hv
      | signerMismatch => cases hv
      | throttled => cases hv
      | glareDeferred => cases hv
      | unready => cases hv
      | unauthorized => cases hv
      | authorizationThrew => cases hv
    · exact .inl hid

/-- A marker that is not of an unsent invite is of one that was dispatched. -/
theorem Accounted.deferred {inv : RecoveryInvite}
    (hours : s.haveOutstanding self nowMs inv.sender = true) (hsent : s.unsent inv.sender = false) :
    Reason self s.log inv nowMs .glareDeferred := by
  obtain ⟨t, hget, hyoung⟩ := recently_eq_true_iff.1 (Bool.and_eq_true_iff.1 hours).1
  rw [unsent, hget, Bool.or_eq_false_iff, decide_eq_false_iff_not, List.any_eq_false] at hsent
  rcases hs.markers inv.sender t hget with ⟨inviteId, t', hmem, hle⟩ | habort | ⟨k, send, hk, hsend⟩
  · exact ⟨inviteId, t, t', hmem, by omega⟩
  · exact absurd habort hsent.1
  · exact absurd (decide_eq_true hsend) (hsent.2 send (mem_values_iff.2 ⟨k, hk⟩))

theorem Accounted.handleIncoming (inv : RecoveryInvite)
    (hok : s.takesUp self ready inv = true →
      if recently (s.pruneInbound nowMs).inboundRecoveryAtMsByPeer nowMs
          recoveryInviteTriggerCooldownMs inv.sender = true then s.ownFailure inv = false
      else s.haveOutstanding self nowMs inv.sender = true → s.unsent inv.sender = false) :
    (s.handleIncoming self nowMs ready inv).Accounted self n := by
  rcases handleIncoming_cases self nowMs ready inv s with
    ⟨-, heq⟩ | ⟨v, -, hv, heq⟩ | ⟨htake, hrest⟩
  · rw [heq]
    exact hs
  · rw [heq]
    refine hs.answered ?_
    rcases hv with rfl | hflaw
    · exact trivial
    · have hsome : inv.flaw self ≠ none := by
        rw [hflaw]
        exact some_ne_none v
      rcases flaw_consumed hflaw with rfl | rfl | rfl <;> exact hsome
  · have hgood := hok htake
    have hidle : s.handling = none := by
      rw [takesUp, Bool.and_eq_true, Bool.and_eq_true, isNone_iff_eq_none] at htake
      exact htake.1.1
    have hpruned : (s.pruneInbound nowMs).Accounted self n := hs.pruneInbound
    rcases hrest with ⟨hcool, heq⟩ | ⟨hspaced, ⟨hours, heq⟩ | ⟨-, heq⟩⟩
    · rw [if_pos hcool] at hgood
      rw [heq]
      exact hpruned.answered (hs.throttled hidle hgood hcool)
    · rw [if_neg (Bool.eq_false_iff.1 hspaced)] at hgood
      rw [heq]
      exact hpruned.answered (hs.deferred hours (hgood hours))
    · rw [heq]
      refine { hpruned with cooldowns := fun sender t hget => ?_ }
      rcases hpruned.cooldowns sender t hget with ⟨other, hbusy, -⟩ | hdone
      · have hbusy' : s.handling = some ⟨other, t, .accepting⟩ := hbusy
        rw [hidle] at hbusy'
        cases hbusy'
      · exact .inr hdone

end

theorem processed_verdict (reply : HandlingReply) : reply.verdict.processed = true := by
  cases reply <;> rfl

theorem Accounted.handlingStep (hs : s.Accounted self n) (reply : HandlingReply) :
    (s.handlingStep reply).Accounted self n := by
  rcases handlingStep_cases reply s with
    heq | ⟨inv, atMs, hhandling, heq | ⟨v, hv, heq⟩⟩ | ⟨inv, atMs, hhandling, heq⟩
  · rw [heq]
    exact hs
  · rw [heq]
    refine ⟨hs.numbered, fun peer t hget => ?_, fun sender t hget => ?_, hs.reasoned⟩
    · exact (hs.markers peer t hget).mono (fun _ => mem_cons_of_mem _) rfl
    · have hcase : (s.inboundRecoveryAtMsByPeer.set inv.sender atMs).get? sender = some t := hget
      rw [get?_set] at hcase
      by_cases hsender : sender = inv.sender
      · rw [if_pos hsender, some_inj] at hcase
        exact .inl ⟨inv, by rw [hcase], hsender.symm⟩
      · rw [if_neg hsender] at hcase
        rcases hs.cooldowns sender t hcase with ⟨other, hbusy, -⟩ | ⟨other, v, hmem, hrest⟩
        · rw [hhandling] at hbusy
          cases hbusy
        · exact .inr ⟨other, v, mem_cons_of_mem _ hmem, hrest⟩
  · have hnoted : (s.note (.answered inv atMs v)).Accounted self n := by
      refine hs.answered ?_
      rcases hv with rfl | rfl <;> exact trivial
    rw [heq]
    refine { hnoted with cooldowns := fun sender t hget => ?_ }
    rcases hnoted.cooldowns sender t hget with ⟨other, hbusy, -⟩ | hdone
    · have hbusy' : s.handling = some ⟨other, t, .accepting⟩ := hbusy
      rw [hhandling] at hbusy'
      cases hbusy'
    · exact .inr hdone
  · have hnoted : (s.note (.answered inv atMs reply.verdict)).Accounted self n := by
      refine hs.answered ?_
      cases reply <;> exact trivial
    rw [heq]
    refine { hnoted with cooldowns := fun sender t hget => ?_ }
    rcases hnoted.cooldowns sender t hget with ⟨other, hbusy, hsender⟩ | hdone
    · -- the attempt that was under way has now been answered
      have hbusy' : s.handling = some ⟨other, t, .accepting⟩ := hbusy
      rw [hhandling] at hbusy'
      obtain ⟨rfl, rfl⟩ := (Handling.mk.inj (some_inj.1 hbusy')).imp_right And.left
      exact .inr ⟨inv, reply.verdict, mem_cons_self, hsender, processed_verdict reply⟩
    · exact .inr hdone

/-! ## Runs -/

theorem Accounted.decrypted (hs : s.Accounted self n) (peerAccountId : String) :
    (s.noteDecrypted nowMs peerAccountId).Accounted self n := by
  rw [noteDecrypted]
  split_ifs
  · exact hs
  · have hnoted : (s.note (.decrypted (trim peerAccountId) nowMs)).Accounted self n := hs.note .rfl
    exact ⟨hnoted.numbered, hnoted.markers, hnoted.cooldowns, hnoted.reasoned⟩

theorem Accounted.act (hs : s.Accounted self nowMs) (hkeys : s.TrimmedKeys) {t : Tick}
    (ht : t.nowMs = nowMs) (hok : s.Unmisled self t) :
    (s.act self nowMs t.ready t.input).Accounted self nowMs := by
  refine triggered_accounted.act hs hkeys (fun _ => ?_) hs.decrypted hs.sendStep
    (fun inv hinv => ?_) hs.handlingStep
  · exact ⟨hs.numbered, hs.markers, hs.cooldowns, hs.reasoned⟩
  · unfold Unmisled at hok
    rw [hinv, ht] at hok
    exact hs.handleIncoming inv hok

/-- What is kept as long as the handler is not misled. -/
structure ReasonedRun (owner : String) (s : Recovery) : Prop where
  keys : s.TrimmedKeys
  accounted : s.Accounted owner s.clockMs

theorem ReasonedRun.step (hs : s.ReasonedRun self) {t : Tick} (hclock : s.Monotone t)
    (hok : s.Unmisled self t) : (step self s t).ReasonedRun self := by
  have hkeys : ({ s with clockMs := t.nowMs } : Recovery).TrimmedKeys := hs.keys
  have hlater : s.Accounted self t.nowMs := hs.accounted.later hclock
  have haccounted : ({ s with clockMs := t.nowMs } : Recovery).Accounted self t.nowMs :=
    ⟨hlater.numbered, hlater.markers, hlater.cooldowns, hlater.reasoned⟩
  refine ⟨hkeys.act t.input, ?_⟩
  rw [Recovery.step, act_clockMs hkeys]
  exact haccounted.act hkeys rfl hok

/-- **No invite is swallowed without a reason**, whatever the accounts send each other and in
whatever order it comes, as long as no handler is misled. -/
theorem reasoned_of_unmisled (start : String → Int) (ticks : List (String × Tick))
    (hclock : Runs.Meets (stepAt step) (fun s t => Monotone (s t.1) t.2)
      (fun account => fresh (start account)) ticks)
    (hok : Runs.Meets (stepAt step) (fun s t => Unmisled t.1 (s t.1) t.2)
      (fun account => fresh (start account)) ticks) (account : String) :
    Reasoned account
      (run (stepAt step) (fun account => fresh (start account)) ticks account).log := by
  rw [run_stepAt]
  have hrun : (run (step account) (fresh (start account))
      (inputsOf account ticks)).ReasonedRun account :=
    invariant (step account) (fun s t hs hboth => hs.step hboth.1 hboth.2) _ _
      ⟨trimmedKeys_fresh (start account), accounted_fresh (start account)⟩
      (Runs.Meets.and _ _
        (meets_stepAt step (fun _ => Monotone) account ticks _ hclock)
        (meets_stepAt step Unmisled account ticks _ hok))
  exact hrun.accounted.reasoned

/-- Two accounts invite each other. The first defers the invite of the second to its own, which
was sent. -/
theorem reasoned_of_unmisled_crossing : Reasoned "ann"
    (run (stepAt step) (fun account => fresh ((fun _ => 0) account))
      [("ann", ⟨0, true, .trigger "bob" "inbox"⟩), ("bob", ⟨0, true, .trigger "ann" "inbox"⟩),
        ("ann", ⟨1, true, .sendStep 0 (.created "i1" true)⟩), ("ann", ⟨2, true, .sendStep 0 .marked⟩),
        ("ann", ⟨3, true, .sendStep 0 (.envelope true)⟩), ("ann", ⟨4, true, .sendStep 0 .dispatched⟩),
        ("ann", ⟨5, true, .incoming ⟨true, "sig", "bob", "bob", "i2"⟩⟩)] "ann").log :=
  reasoned_of_unmisled (fun _ => 0) _ (by decide) (by decide) "ann"

/-- An account that could not mint its own invite defers to it all the same, and so drops the one
invite there is. -/
theorem swallowed_without_reason : ¬∀ (start : String → Int) (ticks : List (String × Tick)),
    Runs.Meets (stepAt step) (fun s t => Monotone (s t.1) t.2)
      (fun account => fresh (start account)) ticks →
    ∀ account, Reasoned account
      (run (stepAt step) (fun account => fresh (start account)) ticks account).log := by
  intro hclaim
  have hreasoned := hclaim (fun _ => 0)
    [("ann", ⟨0, true, .trigger "bob" "inbox"⟩), ("ann", ⟨1, true, .sendStep 0 .threw⟩),
      ("ann", ⟨2, true, .incoming ⟨true, "sig", "bob", "bob", "i1"⟩⟩)] (by decide) "ann"
  have hlog : (run (stepAt step) (fun account => fresh ((fun _ => 0) account))
      [("ann", ⟨0, true, .trigger "bob" "inbox"⟩), ("ann", ⟨1, true, .sendStep 0 .threw⟩),
        ("ann", ⟨2, true, .incoming ⟨true, "sig", "bob", "bob", "i1"⟩⟩)] "ann").log =
      [.answered ⟨true, "sig", "bob", "bob", "i1"⟩ 2 .glareDeferred, .aborted "bob" 0,
        .minted "bob" false 0] := by
    decide
  rw [hlog] at hreasoned
  obtain ⟨⟨inviteId, mintedAtMs, dispatchedAtMs, hmem, -⟩, -⟩ := hreasoned
  rcases mem_cons.1 hmem with heq | hmem
  · cases heq
  · cases mem_singleton.1 hmem

/-- So does an account whose attempt at an invite failed, when the invite comes again. -/
theorem throttled_by_itself : ¬Reasoned "ann"
    (run (step "ann") (fresh 0)
      [⟨0, true, .incoming ⟨true, "sig", "bob", "bob", "i1"⟩⟩,
        ⟨1, true, .handlingStep (.authorized true)⟩, ⟨2, true, .handlingStep .threw⟩,
        ⟨3, true, .incoming ⟨true, "sig", "bob", "bob", "i1"⟩⟩]).log := by
  have hlog : (run (step "ann") (fresh 0)
      [⟨0, true, .incoming ⟨true, "sig", "bob", "bob", "i1"⟩⟩,
        ⟨1, true, .handlingStep (.authorized true)⟩, ⟨2, true, .handlingStep .threw⟩,
        ⟨3, true, .incoming ⟨true, "sig", "bob", "bob", "i1"⟩⟩]).log =
      [.answered ⟨true, "sig", "bob", "bob", "i1"⟩ 3 .throttled,
        .answered ⟨true, "sig", "bob", "bob", "i1"⟩ 0 .acceptError,
        .attempted "bob" "i1" 0] := by
    decide
  rw [hlog]
  rintro ⟨⟨other, t, v, hmem, -, -, -, hother⟩, -⟩
  rcases mem_cons.1 hmem with heq | hmem
  · -- the one attempt there was is of the invite itself, and it failed
    cases heq
    rcases hother with hne | hconsumed
    · exact hne rfl
    · cases hconsumed
  · cases mem_singleton.1 hmem

end Recovery

end RezChat.PeerLinks
