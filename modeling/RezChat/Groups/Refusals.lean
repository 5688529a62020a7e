/-
Invites that are refused (`services/ServerInvitesService.js`, `acceptInvite`).

An envelope is verified in three places: its publisher here, the signatures by the peer links before
they run the handshake, and the founder of its group here again, after it. So an invite whose founder
does not fit its group is rejected when the handshake has been sent and there is a link
(`refused_with_link`). Every other refusal leaves all as it was (`traceless_iff`).
-/
import RezChat.Groups.Founding

set_option autoImplicit false

namespace RezChat.Groups.Refusals

open Inbox (trim)
open Founding Except

variable {ω : Type}

/-- What the peer links make of an envelope: they refuse it and do nothing, fail on the way, or
accept it. -/
inductive Handshake (ω : Type)
  | refused
  | failed (w : ω)
  | accepted (snapshot : LinkSnapshot) (w : ω)

/-- How `acceptInvite` throws. -/
inductive Refusal
  | inviteCodeRequired
  | onlyV3
  | lookupFailed
  | inviteNotFound
  | publisherKeyMismatch
  | handshakeRefused
  | handshakeFailed
  | groupCreatorBindingInvalid

/-- A verification of the envelope failed. -/
def Refusal.ofVerification : Refusal → Bool
  | inviteNotFound | publisherKeyMismatch | handshakeRefused | groupCreatorBindingInvalid => true
  | _ => false

/-- The envelope names a founder from whom the id of its group was not derived. -/
def Misfounded (p : InvitePeers ω) (env : SignedEnvelope) (groupId : String) : Prop :=
  nonBlank env.groupCreatedBy ≠ none ∧ verifiedCreatedBy p env groupId = none

instance (p : InvitePeers ω) (env : SignedEnvelope) (groupId : String) :
    Decidable (Misfounded p env groupId) := inferInstanceAs (Decidable (_ ∧ _))

section Accepting

variable (p : InvitePeers ω) (fetched : String → String → ω → Except Unit (Option SignedEnvelope))
variable (handshake : SignedEnvelope → Option String → Bool → ω → Handshake ω)
variable (acceptorDisplayName : Option String) (forceReestablish : Bool) (nowMs : Int)

/-- The envelope that a code leads to: the one that is stored, or else the durable record, of the
publisher that the code commits to. -/
def resolveEnvelope (inviteCode : String) (w : ω) : Except Refusal SignedEnvelope :=
  if trim inviteCode = "" then .error .inviteCodeRequired
  else match p.parseInviteCodeV3 (trim inviteCode) with
    | none => .error .onlyV3
    | some (inviteId, publisherPublicKeyB64) =>
      let stored := (p.getStoredInviteEnvelope w inviteId).map some
      match stored.elim (fetched inviteId publisherPublicKeyB64 w) .ok with
      | .error _ => .error .lookupFailed
      | .ok none => .error .inviteNotFound
      | .ok (some env) =>
        if committedPub env ≠ publisherPublicKeyB64 then .error .publisherKeyMismatch else .ok env

/-- `acceptInvite`, with the outcome of what follows the last verification. -/
def acceptInvite (inviteCode : String) (fates : List Fate) (s : World (Joined ω)) :
    Except Refusal (Outcome Unit) × World (Joined ω) :=
  match resolveEnvelope p fetched inviteCode s.rest.rest with
  | .error e => (.error e, s)
  | .ok env =>
    match handshake env (nonBlank acceptorDisplayName) forceReestablish s.rest.rest with
    | .refused => (.error .handshakeRefused, s)
    | .failed w => (.error .handshakeFailed, elsewhere w s)
    | .accepted snapshot w =>
      match nonBlank env.groupId with
      | some groupId =>
        if Misfounded p env groupId then (.error .groupCreatorBindingInvalid, elsewhere w s)
        else
          let r := joinGroup p env groupId (otherEnd p snapshot) acceptorDisplayName nowMs fates
            (elsewhere w s)
          (.ok r.outcome, r.state)
      | none =>
        let r := connectDirectly p env snapshot (otherEnd p snapshot) fates (elsewhere w s)
        (.ok r.outcome, r.state)

/-- The code leads to an envelope of its publisher that the peer links accept, with a change, and that
names a founder from whom the id of its group was not derived. -/
def BoundTooLate (inviteCode : String) (s : World (Joined ω)) : Prop :=
  ∃ env snapshot w groupId, resolveEnvelope p fetched inviteCode s.rest.rest = .ok env ∧
    handshake env (nonBlank acceptorDisplayName) forceReestablish s.rest.rest =
      .accepted snapshot w ∧
    w ≠ s.rest.rest ∧ nonBlank env.groupId = some groupId ∧ Misfounded p env groupId

/-- If a verification failed, nothing is different: nothing was sent, and there is no link, contact,
group, membership or thread that was not there as it is. -/
def Traceless (r : Except Refusal (Outcome Unit) × World (Joined ω)) (s : World (Joined ω)) : Prop :=
  ∀ e, r.1 = .error e → e.ofVerification = true → r.2 = s

end Accepting

theorem traceless_same {s : World (Joined ω)} (r : Except Refusal (Outcome Unit)) :
    Traceless (r, s) s := fun _ _ _ => rfl

theorem traceless_ok {s : World (Joined ω)} (o : Outcome Unit) (t : World (Joined ω)) :
    Traceless (.ok o, t) s := fun _ h _ => (nomatch h)

/-- **A refused invite leaves no trace**, exactly if it is not its founder that is refused after the
peer links accepted it. -/
theorem traceless_iff (p : InvitePeers ω)
    (fetched : String → String → ω → Except Unit (Option SignedEnvelope))
    (handshake : SignedEnvelope → Option String → Bool → ω → Handshake ω)
    (acceptorDisplayName : Option String) (forceReestablish : Bool) (nowMs : Int)
    (inviteCode : String) (fates : List Fate) (s : World (Joined ω)) :
    Traceless (acceptInvite p fetched handshake acceptorDisplayName forceReestablish nowMs inviteCode
        fates s) s ↔
      ¬ BoundTooLate p fetched handshake acceptorDisplayName forceReestablish inviteCode s := by
  unfold acceptInvite BoundTooLate
  cases hresolved : resolveEnvelope p fetched inviteCode s.rest.rest with
  | error e => exact iff_of_true (traceless_same _) fun ⟨_, _, _, _, h, _⟩ => (nomatch h)
  | ok env =>
    dsimp only
    cases hshake : handshake env (nonBlank acceptorDisplayName) forceReestablish s.rest.rest with
    | refused =>
      refine iff_of_true (traceless_same _) ?_
      rintro ⟨_, _, _, _, hsame, haccepted, -⟩
      obtain rfl := ok.inj hsame
      rw [hshake] at haccepted
      cases haccepted
    | failed w =>
      refine iff_of_true (fun e he hverified => ?_) ?_
      · obtain rfl := error.inj he
        cases hverified
      · rintro ⟨_, _, _, _, hsame, haccepted, -⟩
        obtain rfl := ok.inj hsame
        rw [hshake] at haccepted
        cases haccepted
    | accepted snapshot w =>
      dsimp only
      cases hgroup : nonBlank env.groupId with
      | none =>
        refine iff_of_true (traceless_ok _ _) ?_
        rintro ⟨_, _, _, _, hsame, -, -, hsome, -⟩
        obtain rfl := ok.inj hsame
        rw [hgroup] at hsome
        cases hsome
      | some groupId =>
        dsimp only
        by_cases hbad : Misfounded p env groupId
        · rw [if_pos hbad]
          constructor
          · rintro h ⟨_, _, w', _, hsame, haccepted, hne, -, -⟩
            obtain rfl := ok.inj hsame
            obtain ⟨-, rfl⟩ := Handshake.accepted.inj (hshake.symm.trans haccepted)
            exact hne (congrArg (fun t => t.rest.rest) (h _ rfl rfl))
          · intro h e _ _
            have hsame : w = s.rest.rest := by_contra fun hne =>
              h ⟨env, snapshot, w, groupId, rfl, hshake, hne, hgroup, hbad⟩
            rw [hsame]
            rfl
        · rw [if_neg hbad]
          refine iff_of_true (traceless_ok _ _) ?_
          rintro ⟨_, _, _, groupId', hsame, -, -, hsome, hmisfounded⟩
          obtain rfl := ok.inj hsame
          obtain rfl : groupId = groupId' := Option.some_inj.1 (hgroup.symm.trans hsome)
          exact hbad hmisfounded

/-- A server that writes down to whom it has sent a handshake. -/
def guest : InvitePeers (List String) where
  ownerAccountId := "me"
  parseInviteCodeV3 code := some (code, "bob's key")
  getStoredInviteEnvelope _ _ := some { founderLeftOut with
    groupCreatedBy := some "bob", groupSalt := some "17" }
  fetchDurableInviteEnvelope _ _ := pure none
  acceptInvite _ _ _ w := (⟨"pl_1", "me", "bob", some "inbox of bob"⟩, w)
  digest x := "<" ++ x ++ ">"
  ensureActiveContact _ _ := pure ()
  ensureThread _ _ := pure ()
  emitGroupUpdated _ := pure ()
  emitGroupMembersUpdated _ := pure ()
  emitThreadIndexUpdated _ _ w := w
  sendMemberJoinOp _ _ _ _ := pure ()
  ensureDirectThread _ _ := pure ()
  directThreadIdForPeerLink _ _ := ""

/-- **Refused, with a link.** Bob invites to alice's group and names himself as its founder. The invite
is rejected, and the handshake is on its way to him. -/
theorem refused_with_link : ¬ ∀ (p : InvitePeers (List String)) fetched handshake name force nowMs code
    fates s, Traceless (acceptInvite p fetched handshake name force nowMs code fates s) s := by
  intro h
  have hsame := h guest (fun _ _ _ => .ok none)
    (fun _ _ _ w => .accepted ⟨"pl_1", "me", "bob", some "inbox of bob"⟩ ("inbox of bob" :: w)) none false 7
    "code" [] ⟨OrdMap.empty, OrdMap.empty, ⟨OrdMap.empty, [], []⟩⟩ .groupCreatorBindingInvalid rfl
    rfl
  exact absurd (congrArg (fun t => t.rest.rest) hsame) (by decide)

end RezChat.Groups.Refusals
