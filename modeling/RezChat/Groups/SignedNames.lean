/-
The names of a roster and the consents that sign them (`storage/ChatGroupStore.js`,
`ensureMembership` and `reviveMembership`; `records/payloads/memberJoinProof.js`).

A member signs its name together with its consent, and whoever forwards the member forwards
both. A receiver drops an entry whose consent does not cover its name, so a row has to store
the two as they were signed. There are three ways in which it does not. A consent to a blank
name is put on a row that keeps the name it had: on one that had no consent, or on a removed one
that is revived. And the row of a founder is made with the name in the entry whether the founder
signed it or not.

Where no op takes one of these ways, every consent that is stored verifies with the name that
is stored, every name was signed by its member, and what is forwarded is accepted
(`run_vouched`). Otherwise a rejoin is enough to make a member invisible (`blank_rejoin`).
-/
import RezChat.Groups.Governance

set_option autoImplicit false

namespace RezChat.Groups

open Inbox (trim trim_trim)
open GroupStore Applier World
open List Option Proc

variable {ω : Type}

/-! ## Consents -/

/-- Which key is said to have signed. -/
structure SignerRef where
  accountId : String
  keyId : String
  alg : String
  signerPublicKeyB64 : String

/-- What a consent signs: the canonical encoding of these three. -/
structure JoinClaim where
  groupId : String
  accountId : String
  displayName : String

/-- The account authority of a server: its own key's id and algorithm, and the verifier. -/
structure AccountAuthority where
  keyId : String
  alg : String
  base64ToBytes : String → Option (List UInt8)
  verify : SignerRef → JoinClaim → List UInt8 → Bool

/-- `normalizeMemberDisplayName`. -/
def normalizeMemberDisplayName (displayName : Option String) : String :=
  trim (displayName.getD "")

/-- `canonicalMemberJoinProofBytes`. -/
def canonicalMemberJoinProofBytes (groupId accountId displayName : String) : JoinClaim :=
  ⟨groupId, accountId, normalizeMemberDisplayName (some displayName)⟩

/-- `verifyMemberJoinProof`. -/
def AccountAuthority.verifyMemberJoinProof (authority : AccountAuthority)
    (groupId accountId displayName : String) (proof : JoinProof) : Bool :=
  let acct := trim accountId
  let pub := trim proof.joinerSignerPublicKeyB64
  let sigB64 := trim proof.joinerSigB64
  if acct = "" ∨ pub = "" ∨ sigB64 = "" then false
  else match authority.base64ToBytes sigB64 with
    | none => false
    | some sigBytes => authority.verify ⟨acct, authority.keyId, authority.alg, pub⟩
        (canonicalMemberJoinProofBytes groupId acct displayName) sigBytes

/-- The services of a server, with this authority behind `#verifyConsent`. -/
def Peers.consenting (p : Peers ω) (authority : AccountAuthority) : Peers ω :=
  { p with verifyMemberJoinProof := authority.verifyMemberJoinProof }

theorem consenting_verify (p : Peers ω) (authority : AccountAuthority) :
    (p.consenting authority).verifyMemberJoinProof = authority.verifyMemberJoinProof := by
  unfold Peers.consenting
  rfl

namespace AccountAuthority

variable {authority : AccountAuthority} {g a name name' : String} {q : JoinProof}

/-- A name is verified as it was normalized to be signed. -/
theorem verify_name (h : trim name = trim name') :
    authority.verifyMemberJoinProof g a name q = authority.verifyMemberJoinProof g a name' q := by
  unfold verifyMemberJoinProof canonicalMemberJoinProofBytes normalizeMemberDisplayName
  simp only [getD_some, h]

theorem verify_account {a' : String} (h : trim a = trim a') :
    authority.verifyMemberJoinProof g a name q = authority.verifyMemberJoinProof g a' name q := by
  unfold verifyMemberJoinProof
  rw [h]

/-- A consent that verifies has both its halves, and verifies as a row carries it. -/
theorem carried_of_verify (h : authority.verifyMemberJoinProof g a name q = true) :
    ∃ q', carried (some q) = some q' ∧
      authority.verifyMemberJoinProof g a name q' = true := by
  unfold verifyMemberJoinProof at h
  dsimp only at h
  by_cases hblank : trim a = "" ∨ trim q.joinerSignerPublicKeyB64 = "" ∨ trim q.joinerSigB64 = ""
  · rw [if_pos hblank] at h
    exact nomatch h
  · have hwhole := (not_or.1 hblank).2
    refine ⟨⟨trim q.joinerSignerPublicKeyB64, trim q.joinerSigB64⟩, if_neg hwhole, ?_⟩
    unfold verifyMemberJoinProof
    simp only [trim_trim]
    exact h

end AccountAuthority

/-! ## What an op has to say of a member -/

/-- An account as an op introduces it. -/
structure Offer where
  accountId : String
  displayName : String
  isCreator : Bool
  joinProof : Option JoinProof

/-- The account as a row is found by it. -/
def Offer.account (o : Offer) : String := trim o.accountId

def MemberContact.offer (contact : MemberContact) : Offer :=
  ⟨contact.accountId, contact.displayName, contact.isCreator, contact.joinProof⟩

def MemberJoin.offer (join : MemberJoin) : Offer :=
  ⟨join.accountId, join.displayName, false, some join.joinProof⟩

/-- The accounts that an op introduces. An entry that nobody can be reached by is skipped. -/
def OpBody.offers : OpBody → List Offer
  | .memberJoin join => [join.offer]
  | .memberContact contacts =>
    (contacts.filter fun contact => decide (trim contact.inboxId ≠ "")).map MemberContact.offer
  | _ => []

/-- One of the ops came with this name for the member, and with the member's consent to it. -/
def Signed (authority : AccountAuthority) (received : List GroupOp) (g a name : String) : Prop :=
  ∃ op ∈ received, ∃ o ∈ op.body.offers, op.groupId = trim g ∧ trim o.account = trim a ∧
    trim o.displayName = name ∧ ∃ q, carried o.joinProof = some q ∧
      authority.verifyMemberJoinProof (trim g) (trim a) name q = true

/-- The consent that a row stores covers the name that it stores. -/
def Reverifies (authority : AccountAuthority) (g a : String) (m : ChatGroupMember) : Prop :=
  ∀ q, m.proof = some q →
    authority.verifyMemberJoinProof (trim g) (trim a) (m.displayName.getD "") q = true

/-- A row that is as its member has it: its consent covers its name, and the name is the one
that it had at the start or one that came signed. -/
structure Vouched (authority : AccountAuthority) (s₀ : World ω) (received : List GroupOp)
    (g a : String) (m : ChatGroupMember) : Prop where
  consent : Reverifies authority g a m
  name : ∀ name, m.displayName = some name →
    (∃ m₀, s₀.row g a = some m₀ ∧ m₀.displayName = some name) ∨ Signed authority received g a name

/-! ## The three ways -/

/-- What lets an op introduce anybody: a join needs an invite of ours or an active member that
forwards it, and contacts need an active member. -/
def Admitted (p : Peers ω) (s : World ω) (op : GroupOp) (sender : String) (nowMs : Int) : Prop :=
  match op.body with
  | .memberJoin join =>
    if trim sender = trim join.accountId then
      ∃ e, p.getStoredInviteEnvelope s.rest join.inviteId = some e ∧ e.kind = "group" ∧
        trim e.groupId = op.groupId ∧ ∃ fates,
          (p.authorizeInviteJoin join.inviteId (trim join.accountId) nowMs fates s.rest).outcome =
            .returned true
    else ActiveIn s op.groupId sender
  | _ => ActiveIn s op.groupId sender

/-- The account is introduced, if it can show a warrant. -/
structure Heard (p : Peers ω) (s : World ω) (op : GroupOp) (sender : String) (nowMs : Int)
    (o : Offer) : Prop where
  sent : trim sender ≠ ""
  named : o.account ≠ ""
  other : o.account ≠ p.ownerAccountId
  admitted : Admitted p s op sender nowMs

/-- A consent to a blank name meets a row that has a name, and that has no consent yet or is
to be revived. -/
def Stripped (p : Peers ω) (s : World ω) (op : GroupOp) (sender : String) (nowMs : Int)
    (o : Offer) : Prop :=
  trim o.displayName = "" ∧ Proven p op.groupId o.account o.displayName o.joinProof ∧
    ∃ m, s.row op.groupId o.account = some m ∧ trim (m.displayName.getD "") ≠ "" ∧
      (m.proof = none ∨
        m.state = .removed ∧ ∃ join, Revivable p s op sender nowMs o.account join m)

/-- A founder without a row comes with a name that it has not signed. -/
def Styled (p : Peers ω) (s : World ω) (op : GroupOp) (o : Offer) : Prop :=
  o.isCreator = true ∧ IsFounder s op.groupId o.account ∧ s.row op.groupId o.account = none ∧
    trim o.displayName ≠ "" ∧ ¬ Proven p op.groupId o.account o.displayName o.joinProof

/-- Nobody whom the op introduces is `Stripped` or `Styled` by it. -/
def Clean (p : Peers ω) (s : World ω) : Act ω → Prop
  | .inbound op sender nowMs _ => ∀ o ∈ op.body.offers, Heard p s op sender nowMs o →
      ¬ Stripped p s op sender nowMs o ∧ ¬ Styled p s op o
  | .elsewhere _ => True

/-! ## One row -/

section Row

attribute [local irreducible] AccountAuthority.verifyMemberJoinProof

variable {authority : AccountAuthority} {p : Peers ω} {s₀ : World ω} {received : List GroupOp}
  {op : GroupOp} {o : Offer} {g a : String}

theorem boundName_some {displayName name : String} (h : boundName displayName = some name) :
    trim displayName = name := by
  unfold boundName at h
  split_ifs at h
  exact some_inj.1 h

variable {displayName : String}

theorem boundName_blank (h : trim displayName = "") :
    boundName displayName = none := by
  unfold boundName
  rw [if_pos h]

/-- A new row has the name its op binds, and none else. -/
theorem newRow_displayName {role : GroupRole}
    {joinProof : Option JoinProof} {nowMs : Int} :
    (newRow role displayName joinProof nowMs).displayName =
      match boundName displayName with
      | some name => some name
      | none => none := by
  unfold newRow
  cases boundName displayName with
  | some name => rfl
  | none => rfl

theorem boundName_none (h : boundName displayName = none) :
    trim displayName = "" := by
  unfold boundName at h
  split_ifs at h with hblank
  exact hblank

theorem Proven.verifies {name : String} {joinProof : Option JoinProof}
    (h : Proven (p.consenting authority) g a name joinProof) :
    ∃ q, carried joinProof = some q ∧
      authority.verifyMemberJoinProof g (trim a) name q = true := by
  obtain ⟨-, q, hq, hv⟩ := h
  rw [consenting_verify] at hv
  exact ⟨q, hq, hv⟩

/-- A name that was offered with consent is signed. -/
theorem signed_of_proven (hop : op ∈ received) (ho : o ∈ op.body.offers)
    (hg : trim g = op.groupId) (ha : trim a = trim o.account)
    (hproven : Proven (p.consenting authority) op.groupId o.account o.displayName o.joinProof) :
    Signed authority received g a (trim o.displayName) := by
  obtain ⟨q, hq, hv⟩ := hproven.verifies
  refine ⟨op, hop, o, ho, hg.symm, ha.symm, rfl, q, hq, ?_⟩
  rw [hg, ha, AccountAuthority.verify_name (trim_trim _)]
  exact hv

/-- A row that is given a consent, and with it the name of the offer unless that is blank. -/
theorem vouched_of_proven {m : ChatGroupMember} (old : Option String) (hop : op ∈ received)
    (ho : o ∈ op.body.offers) (hg : trim g = op.groupId) (ha : trim a = trim o.account)
    (hproven : Proven (p.consenting authority) op.groupId o.account o.displayName o.joinProof)
    (hproof : m.proof = carried o.joinProof)
    (hname : m.displayName = match boundName o.displayName with
      | some name => some name
      | none => old)
    (hblank : trim o.displayName = "" → trim (old.getD "") = "")
    (hold : ∀ name, old = some name →
      (∃ m₀, s₀.row g a = some m₀ ∧ m₀.displayName = some name) ∨
        Signed authority received g a name) : Vouched authority s₀ received g a m := by
  constructor
  · intro q hq
    obtain ⟨q', hq', hv⟩ := hproven.verifies
    rw [hproof, hq', some_inj] at hq
    subst hq
    rw [hg, ha]
    -- the name that is stored is, trimmed, the name that was signed
    have htrim : trim (m.displayName.getD "") = trim o.displayName := by
      rw [hname]
      cases hbound : boundName o.displayName with
      | some name =>
        rw [← boundName_some hbound]
        exact trim_trim _
      | none =>
        have hnone := boundName_none hbound
        rw [hnone]
        exact hblank hnone
    rw [AccountAuthority.verify_name htrim]
    exact hv
  · intro name hn
    rw [hname] at hn
    cases hbound : boundName o.displayName with
    | some name' =>
      rw [hbound] at hn
      have heq : name' = name := some_inj.1 hn
      rw [← heq, ← boundName_some hbound]
      exact .inr (signed_of_proven hop ho hg ha hproven)
    | none =>
      rw [hbound] at hn
      exact hold name hn

/-- A row that keeps its name and its consent. -/
theorem Vouched.of_same {m m' : ChatGroupMember} (h : Vouched authority s₀ received g a m)
    (hname : m'.displayName = m.displayName) (hproof : m'.proof = m.proof) :
    Vouched authority s₀ received g a m' := by
  constructor
  · intro q hq
    rw [hname]
    exact h.consent q (hproof.symm.trans hq)
  · intro name hn
    exact h.name name (hname.symm.trans hn)

/-- Rows are found by trimmed ids. -/
theorem Vouched.congr {m : ChatGroupMember} {g' a' : String}
    (h : Vouched authority s₀ received g a m) (hg : trim g = trim g') (ha : trim a = trim a') :
    Vouched authority s₀ received g' a' m := by
  obtain ⟨hconsent, hname⟩ := h
  unfold Reverifies at hconsent
  unfold Signed at hname
  rw [hg, ha] at hconsent
  rw [hg, ha, row_congr s₀ hg ha] at hname
  exact ⟨hconsent, hname⟩

end Row

/-! ## A roster while an op introduces members -/

/-- What holds of the rows of `t` while an op that met `s` introduces its members: they are as
their members have them, none is gone, and one that has no consent is as it was or has no name. -/
structure Steady (authority : AccountAuthority) (s₀ : World ω) (received : List GroupOp)
    (s t : World ω) : Prop where
  rows : ∀ g a m, t.row g a = some m → Vouched authority s₀ received g a m
  kept : ∀ g a, t.row g a = none → s.row g a = none
  unsigned : ∀ g a m, t.row g a = some m → m.proof = none →
    s.row g a = some m ∨ m.displayName = none

/-- What an entry is let through with: a consent of its member, or nothing, for a founder. -/
def Warrant (p : Peers ω) (s : World ω) (op : GroupOp) (o : Offer)
    (joinProof : Option JoinProof) : Prop :=
  joinProof = o.joinProof ∧ Proven p op.groupId o.account o.displayName o.joinProof ∨
    joinProof = none ∧ o.isCreator = true ∧ IsFounder s op.groupId o.account ∧
      ¬ Proven p op.groupId o.account o.displayName o.joinProof

section Introductions

attribute [local irreducible] AccountAuthority.verifyMemberJoinProof

variable {authority : AccountAuthority} {p : Peers ω} {s₀ s : World ω} {received : List GroupOp}
  {op : GroupOp} {o : Offer} {sender : String} {nowMs : Int}

theorem steady_ofRosters (authority : AccountAuthority) (s₀ : World ω) (received : List GroupOp)
    (s : World ω) : OfRosters (Steady authority s₀ received s) := by
  intro t t' ht h
  constructor
  · intro g a m hm
    rw [ht.rows] at hm
    exact h.rows g a m hm
  · intro g a hm
    rw [ht.rows] at hm
    exact h.kept g a hm
  · intro g a m hm hproof
    rw [ht.rows] at hm
    exact h.unsigned g a m hm hproof

theorem Steady.start (h : ∀ g a m, s.row g a = some m → Vouched authority s₀ received g a m) :
    Steady authority s₀ received s s :=
  ⟨h, fun _ _ hm => hm, fun _ _ _ hm _ => .inl hm⟩

variable {t : World ω}

/-- One row was written, with a consent or without a name. -/
theorem Steady.withRow {g a : String} {m : ChatGroupMember}
    (h : Steady authority s₀ received s t) (hm : Vouched authority s₀ received g a m)
    (hunsigned : m.proof = none → m.displayName = none) :
    Steady authority s₀ received s (t.withRow g a m) := by
  constructor
  · intro g' a' m' hm'
    rw [row_withRow] at hm'
    by_cases hat : trim g' = trim g ∧ trim a' = trim a
    · rw [if_pos hat, some_inj] at hm'
      rw [← hm']
      exact hm.congr hat.1.symm hat.2.symm
    · rw [if_neg hat] at hm'
      exact h.rows g' a' m' hm'
  · intro g' a' hm'
    rw [row_withRow] at hm'
    by_cases hat : trim g' = trim g ∧ trim a' = trim a
    · rw [if_pos hat] at hm'
      exact nomatch hm'
    · rw [if_neg hat] at hm'
      exact h.kept g' a' hm'
  · intro g' a' m' hm' hproof
    rw [row_withRow] at hm'
    by_cases hat : trim g' = trim g ∧ trim a' = trim a
    · rw [if_pos hat, some_inj] at hm'
      subst hm'
      exact .inr (hunsigned hproof)
    · rw [if_neg hat] at hm'
      exact h.unsigned g' a' m' hm' hproof

/-- **Introducing a member.** Its row is added or given a consent, and stays as its member has
it. -/
theorem keeps_ensureOffer {joinProof : Option JoinProof} (hop : op ∈ received)
    (ho : o ∈ op.body.offers)
    (hstripped : ¬ Stripped (p.consenting authority) s op sender nowMs o)
    (hstyled : ¬ Styled (p.consenting authority) s op o)
    (hw : Warrant (p.consenting authority) s op o joinProof) :
    Holds (Steady authority s₀ received s)
      (ensureMembership op.groupId o.account .member o.displayName joinProof nowMs) := by
  apply keeps_of_wp
  intro t ht
  refine ensureMembership_spec ?_ ?_ (fun _ _ => ⟨ht, trivial⟩) ht ht
  · -- a row is added: with the consent and the name of the offer, or for a founder with neither
    intro hnone
    have h : Steady authority s₀ received s
        (t.withRow op.groupId o.account (newRow .member o.displayName joinProof nowMs)) := by
      rcases hw with ⟨rfl, hproven⟩ | ⟨rfl, hcreator, hfounder, hnot⟩
      · refine ht.withRow (vouched_of_proven none hop ho op.groupId_trimmed rfl hproven
          rfl ?_ (fun _ => rfl) nofun) ?_
        · exact newRow_displayName
        · intro hproof
          obtain ⟨-, q, hq, -⟩ := hproven
          exact nomatch hq.symm.trans hproof
      · have hblank : boundName o.displayName = none := by
          by_contra hname
          refine hstyled ⟨hcreator, hfounder, ht.kept _ _ hnone, ?_, hnot⟩
          intro htrim
          exact hname (boundName_blank htrim)
        refine ht.withRow ⟨nofun, ?_⟩ (fun _ => hblank)
        intro name hn
        exact nomatch hblank.symm.trans hn
    exact ⟨⟨h, trivial⟩, h⟩
  · -- a row without a consent is given one, and keeps its name only if it has none
    intro m q hm hproof hcarried
    have h : Steady authority s₀ received s
        (t.withRow op.groupId o.account (provedRow m o.displayName q)) := by
      rcases hw with ⟨rfl, hproven⟩ | ⟨rfl, -⟩
      · refine ht.withRow (vouched_of_proven m.displayName hop ho op.groupId_trimmed rfl hproven
          hcarried.symm rfl ?_ (ht.rows _ _ _ hm).name) nofun
        intro hblank
        rcases ht.unsigned _ _ _ hm hproof with hsame | hnameless
        · by_contra hname
          exact hstripped ⟨hblank, hproven, m, hsame, hname, .inl hproof⟩
        · rw [hnameless]
          rfl
      · exact nomatch hcarried
    exact ⟨⟨h, trivial⟩, h⟩

/-! ### What an op shows -/

/-- A consent is taken for given exactly if its proof verifies. -/
theorem verifyConsent_decides {g a name : String} {joinProof : Option JoinProof}
    {R : Bool → World ω → Prop} {E D : World ω → Prop}
    (hfalse : ¬ Proven p g a name joinProof → R false s)
    (htrue : Proven p g a name joinProof → R true s) (hE : E s) (hD : D s) :
    wp (verifyConsent p g a name joinProof) R E D s := by
  unfold verifyConsent
  split
  · rename_i proof hauth hproof
    refine wp_await_read ?_ hE hD
    cases hv : p.verifyMemberJoinProof g (trim a) name proof with
    | true => exact htrue ⟨hauth, proof, hproof, hv⟩
    | false =>
      refine hfalse ?_
      rintro ⟨-, proof', hproof', hv'⟩
      rw [hproof, some_inj] at hproof'
      rw [← hproof', hv] at hv'
      exact nomatch hv'
  · rename_i hnone
    refine wp_pure (hfalse ?_)
    rintro ⟨hauth, proof, hproof, -⟩
    exact hnone proof hauth hproof

theorem warrantOf_offer {createdBy : String} {contact : MemberContact}
    {R : Bool × Option JoinProof → World ω → Prop} {E D : World ω → Prop}
    (hby : createdBy ≠ "" → contact.offer.account = createdBy →
      IsFounder s op.groupId contact.offer.account)
    (hno : ∀ joinProof, R (false, joinProof) t)
    (hyes : ∀ joinProof, Warrant p s op contact.offer joinProof → R (true, joinProof) t)
    (hE : E t) (hD : D t) :
    wp (warrantOf p op.groupId createdBy contact.offer.account contact) R E D t := by
  unfold warrantOf
  by_cases hcreator : contact.isCreator = true
  · rw [if_pos hcreator]
    by_cases hfounder : createdBy ≠ "" ∧ contact.offer.account = createdBy
    · rw [if_pos hfounder]
      have hf := hby hfounder.1 hfounder.2
      refine wp_bind (verifyConsent_decides ?_ ?_ hE hD)
      · intro hnot
        exact wp_pure (hyes none (.inr ⟨rfl, hcreator, hf, hnot⟩))
      · intro hproven
        exact wp_pure (hyes contact.joinProof (.inl ⟨rfl, hproven⟩))
    · rw [if_neg hfounder]
      exact wp_pure (hno none)
  · rw [if_neg hcreator]
    refine wp_bind (verifyConsent_decides ?_ ?_ hE hD)
    · intro _
      exact wp_pure (hno none)
    · intro hproven
      exact wp_pure (hyes contact.joinProof (.inl ⟨rfl, hproven⟩))

variable {contacts : List MemberContact}

theorem offer_mem {contact : MemberContact}
    (hbody : op.body = .memberContact contacts) (hmem : contact ∈ contacts)
    (hinbox : trim contact.inboxId ≠ "") : contact.offer ∈ op.body.offers := by
  rw [hbody]
  exact mem_map_of_mem (mem_filter.2 ⟨hmem, decide_eq_true hinbox⟩)

/-- Nobody whom the op introduces is `Stripped` or `Styled` by it. -/
def Unspoilt (p : Peers ω) (s : World ω) (op : GroupOp) (sender : String) (nowMs : Int) : Prop :=
  ∀ o ∈ op.body.offers, o.account ≠ "" → o.account ≠ p.ownerAccountId →
    ¬ Stripped p s op sender nowMs o ∧ ¬ Styled p s op o

/-- One entry of forwarded contacts. -/
theorem keeps_applyOffer {createdBy : String}
    (hop : op ∈ received) (hbody : op.body = .memberContact contacts)
    (hclean : Unspoilt (p.consenting authority) s op sender nowMs)
    (hby : ∀ a, createdBy ≠ "" → a = createdBy → IsFounder s op.groupId a)
    (acc : ContactTally) (contact : MemberContact) (hmem : contact ∈ contacts) :
    Holds (Steady authority s₀ received s)
      (applyContact (p.consenting authority) op createdBy nowMs acc contact) := by
  unfold applyContact
  dsimp only
  by_cases hskip : trim contact.accountId = "" ∨ trim contact.inboxId = "" ∨
      trim contact.accountId = (p.consenting authority).ownerAccountId
  · rw [if_pos hskip]
    exact holds_pure
  rw [if_neg hskip]
  obtain ⟨hnamed, hrest⟩ := not_or.1 hskip
  obtain ⟨hinbox, hother⟩ := not_or.1 hrest
  have ho := offer_mem hbody hmem hinbox
  obtain ⟨hstripped, hstyled⟩ := hclean contact.offer ho hnamed hother
  apply keeps_of_wp
  intro t ht
  refine wp_bind (warrantOf_offer (hby _) ?_ ?_ ht ht)
  · intro _
    exact wp_pure ⟨ht, trivial⟩
  · intro joinProof hw
    have hensure : Holds (Steady authority s₀ received s)
        (ensureMembership op.groupId contact.offer.account .member contact.offer.displayName
          joinProof nowMs) := keeps_ensureOffer hop ho hstripped hstyled hw
    refine Keeps.wp (keeps_bind (Q := fun _ => True) ?_ ?_) ht
    · refine keeps_tryCatch (keeps_bind hensure ?_) (holds_pure)
      intro _ _
      exact holds_pure
    · intro _ _
      exact keeps_introduce (steady_ofRosters authority s₀ received s) _ _ _ _ _ _

/-! ### Joins -/

/-- The rows of a store are as their members have them. -/
def RosterVouched (authority : AccountAuthority) (s₀ : World ω) (received : List GroupOp)
    (t : World ω) : Prop :=
  ∀ g a m, t.row g a = some m → Vouched authority s₀ received g a m

theorem vouched_ofRosters (authority : AccountAuthority) (s₀ : World ω)
    (received : List GroupOp) : OfRosters (RosterVouched authority s₀ received) := by
  intro t t' ht h g a m hm
  rw [ht.rows] at hm
  exact h g a m hm

theorem RosterVouched.withRow {g a : String} {m : ChatGroupMember}
    (h : RosterVouched authority s₀ received t) (hm : Vouched authority s₀ received g a m) :
    RosterVouched authority s₀ received (t.withRow g a m) := by
  intro g' a' m' hm'
  rw [row_withRow] at hm'
  by_cases hat : trim g' = trim g ∧ trim a' = trim a
  · rw [if_pos hat, some_inj] at hm'
    rw [← hm']
    exact hm.congr hat.1.symm hat.2.symm
  · rw [if_neg hat] at hm'
    exact h g' a' m' hm'

variable {join : MemberJoin}

/-- Who joins is revived with the name it signs now, unless it had none, or introduced. -/
theorem admitJoiner_vouched
    {existing : Option ChatGroupMember} (hop : op ∈ received) (hbody : op.body = .memberJoin join)
    (hs : RosterVouched authority s₀ received s) (ht : SameRosters s t)
    (hproven : Proven (p.consenting authority) op.groupId (trim join.accountId) join.displayName
      (some join.joinProof))
    (hrevivable : existing.map ChatGroupMember.state = some .removed →
      ∀ m, s.row op.groupId (trim join.accountId) = some m → m.state = .removed →
        Revivable (p.consenting authority) s op sender nowMs (trim join.accountId) join m)
    (hstripped : ¬ Stripped (p.consenting authority) s op sender nowMs join.offer)
    (hstyled : ¬ Styled (p.consenting authority) s op join.offer) :
    wp (admitJoiner op join (trim join.accountId) existing nowMs)
      (fun _ => RosterVouched authority s₀ received) (RosterVouched authority s₀ received)
      (RosterVouched authority s₀ received) t := by
  have ho : join.offer ∈ op.body.offers := by
    rw [hbody]
    exact mem_singleton_self _
  have htv := vouched_ofRosters authority s₀ received s t ht hs
  unfold admitJoiner
  by_cases hremoved : existing.map ChatGroupMember.state = some .removed
  · rw [if_pos hremoved]
    refine wp_tryCatch (wp_bind (reviveMembership_spec (wp_pure htv) ?_
      (wp_pure htv) htv))
    intro m hm hstate
    have hrow : s.row op.groupId (trim join.accountId) = some m := by
      rw [← ht.rows]
      exact hm
    have hrevive := hrevivable hremoved m hrow hstate
    have hproof : (revivedRow m .member join.displayName (some join.joinProof) nowMs).proof =
        carried (some join.joinProof) := by
      obtain ⟨q, hq, -⟩ := hproven.verifies
      unfold revivedRow
      dsimp only
      rw [hq]
    have h := htv.withRow (vouched_of_proven (o := join.offer) m.displayName hop ho
      op.groupId_trimmed rfl hproven hproof rfl (fun hblank => by
        by_contra hname
        exact hstripped ⟨hblank, hproven, m, hrow, hname, .inr ⟨hstate, join, hrevive⟩⟩)
      (hs _ _ _ hrow).name)
    exact ⟨wp_pure h, wp_pure h⟩
  · rw [if_neg hremoved]
    have hw : Warrant (p.consenting authority) s op join.offer (some join.joinProof) :=
      .inl ⟨rfl, hproven⟩
    have hkeeps : Holds (Steady authority s₀ received s) (tryCatch (do
        let e ← ensureMembership op.groupId (trim join.accountId) .member join.displayName
          (some join.joinProof) nowMs
        pure (e.created || e.upgraded, false)) (pure (false, true))) := by
      have hensure : Holds (Steady authority s₀ received s)
          (ensureMembership op.groupId join.offer.account .member join.offer.displayName
            (some join.joinProof) nowMs) :=
        keeps_ensureOffer hop ho hstripped hstyled hw
      refine keeps_tryCatch (keeps_bind hensure ?_) (holds_pure)
      intro _ _
      exact holds_pure
    have hsteady := steady_ofRosters authority s₀ received s s t ht (.start hs)
    exact wp_mono (hkeeps.wp hsteady) (fun _ _ h => h.1.rows) (fun _ h => h.rows)
      (fun _ h => h.rows)

theorem admitted_of_letIn {existing : Option ChatGroupMember}
    (hbody : op.body = .memberJoin join)
    (h : LetIn p s op join (trim join.accountId) (trim sender) existing nowMs) :
    Admitted p s op sender nowMs := by
  unfold Admitted
  rw [hbody]
  cases h with
  | announced e hself he hkind hgroup _ hauth =>
    dsimp only
    rw [if_pos hself]
    exact ⟨e, he, hkind, hgroup, hauth⟩
  | forwarded hother hactive _ =>
    dsimp only
    rw [if_neg hother]
    obtain ⟨m, hm, hstate⟩ := hactive
    refine ⟨m, ?_, hstate⟩
    rw [row_congr s rfl (trim_trim sender)] at hm
    exact hm

theorem applyIncomingMemberJoin_vouched (hop : op ∈ received)
    (hbody : op.body = .memberJoin join) (hs : RosterVouched authority s₀ received s)
    (hsender : trim sender ≠ "")
    (hclean : ∀ o ∈ op.body.offers, Heard (p.consenting authority) s op sender nowMs o →
      ¬ Stripped (p.consenting authority) s op sender nowMs o ∧
        ¬ Styled (p.consenting authority) s op o) :
    wp (applyIncomingMemberJoin (p.consenting authority) op join (trim sender) nowMs)
      (fun _ => RosterVouched authority s₀ received) (RosterVouched authority s₀ received)
      (RosterVouched authority s₀ received) s := by
  have hI := vouched_ofRosters authority s₀ received
  have ho : join.offer ∈ op.body.offers := by
    rw [hbody]
    exact mem_singleton_self _
  unfold applyIncomingMemberJoin
  dsimp only
  by_cases hskip : trim join.accountId = "" ∨
      trim join.accountId = (p.consenting authority).ownerAccountId
  · rw [if_pos hskip]
    exact wp_pure hs
  rw [if_neg hskip]
  obtain ⟨hnamed, hother⟩ := not_or.1 hskip
  refine wp_bind (verifyConsent_spec (wp_pure hs) ?_ hs hs)
  intro hproven
  -- whatever was found of the joiner's row
  have hjoin : ∀ existing : Option ChatGroupMember,
      (∀ m, existing = some m → s.row op.groupId (trim join.accountId) = some m) →
      wp (do
        let admissible ← letIn (p.consenting authority) op join (trim join.accountId)
          (trim sender) existing nowMs
        if admissible then
          recordJoin (p.consenting authority) op join (trim join.accountId) existing
            (decide (trim sender = trim join.accountId)) nowMs
        else pure (consumed false))
      (fun _ => RosterVouched authority s₀ received) (RosterVouched authority s₀ received)
      (RosterVouched authority s₀ received) s := by
    intro existing hexisting
    refine wp_bind (letIn_spec (fun t ht => wp_pure (hI s t ht hs)) ?_
      (fun t ht => hI s t ht hs))
    intro t ht hlet
    obtain ⟨hstripped, hstyled⟩ := hclean _ ho ⟨hsender, hnamed, hother,
      admitted_of_letIn hbody hlet⟩
    exact recordJoin_keeps hI (admitJoiner_vouched hop hbody hs ht hproven
      (revivable_of_letIn hbody hproven hexisting hlet) hstripped hstyled)
  refine wp_bind (memberOf_spec ?_ ?_ hs)
  · exact hjoin _ fun m hm => hm
  · exact hjoin none nofun

/-! ### Every op -/

/-- Who is introduced by an op of an active member is heard. -/
theorem unspoilt_of_clean
    (hbody : op.body = .memberContact contacts) (hsender : trim sender ≠ "")
    (hactive : ActiveIn s op.groupId (trim sender))
    (hclean : ∀ o ∈ op.body.offers, Heard p s op sender nowMs o →
      ¬ Stripped p s op sender nowMs o ∧ ¬ Styled p s op o) : Unspoilt p s op sender nowMs := by
  intro o ho hnamed hother
  refine hclean o ho ⟨hsender, hnamed, hother, ?_⟩
  unfold Admitted
  rw [hbody]
  obtain ⟨m, hm, hstate⟩ := hactive
  refine ⟨m, ?_, hstate⟩
  rw [row_congr s rfl (trim_trim sender)] at hm
  exact hm

/-- An op that introduces members. -/
theorem handle_introducing (hop : op ∈ received) (hintro : op.body.introduces = true)
    (hs : RosterVouched authority s₀ received s)
    (hclean : ∀ o ∈ op.body.offers, Heard (p.consenting authority) s op sender nowMs o →
      ¬ Stripped (p.consenting authority) s op sender nowMs o ∧
        ¬ Styled (p.consenting authority) s op o) :
    wp (handle (p.consenting authority) op sender nowMs)
      (fun _ => RosterVouched authority s₀ received) (RosterVouched authority s₀ received)
      (RosterVouched authority s₀ received) s := by
  unfold handle
  dsimp only
  by_cases hsender : trim sender = ""
  · rw [if_pos hsender]
    exact wp_pure hs
  rw [if_neg hsender]
  have hcases : (∃ join, op.body = .memberJoin join) ∨
      ∃ contacts, op.body = .memberContact contacts := by
    cases hbody : op.body with
    | memberJoin join => exact .inl ⟨join, rfl⟩
    | memberContact contacts => exact .inr ⟨contacts, rfl⟩
    | _ =>
      rw [hbody] at hintro
      exact nomatch hintro
  rcases hcases with ⟨join, hbody⟩ | ⟨contacts, hbody⟩
  · rw [hbody]
    exact applyIncomingMemberJoin_vouched hop hbody hs hsender hclean
  · rw [hbody]
    dsimp only
    unfold applyGatedOp
    refine wp_bind (standing_spec (trim_trim _) (wp_pure hs) ?_ hs)
    intro isAdmin hactive _
    have hunspoilt := unspoilt_of_clean hbody hsender hactive hclean
    have hcontacts : wp
        (applyIncomingMemberContact (p.consenting authority) op contacts nowMs)
        (fun _ => Steady authority s₀ received s) (Steady authority s₀ received s)
        (Steady authority s₀ received s) s :=
      applyIncomingMemberContact_keeps (steady_ofRosters authority s₀ received s) (.start hs)
        fun _ hby acc contact hmem => keeps_applyOffer hop hbody hunspoilt hby acc contact hmem
    refine wp_bind ?_
    unfold applyMemberOp
    rw [hbody]
    exact wp_mono hcontacts (fun _ _ h => wp_pure h.rows) (fun _ h => h.rows)
      (fun _ h => h.rows)

end Introductions

/-! ## Runs -/

section Runs

variable {authority : AccountAuthority} {p : Peers ω} {s₀ s : World ω} {received : List GroupOp}

/-- The ops that a run received. -/
def receivedOps (acts : List (Act ω)) : List GroupOp :=
  acts.filterMap fun
    | .inbound op _ _ _ => some op
    | .elsewhere _ => none

/-- **A step.** An op that introduces nobody keeps names and consents; one that introduces
members keeps rows as their members have them. -/
theorem act_vouched (x : Act ω) (hx : ∀ op ∈ receivedOps [x], op ∈ received)
    (h : RosterVouched authority s₀ received s) (hclean : Clean (p.consenting authority) s x) :
    RosterVouched authority s₀ received (act (p.consenting authority) s x) := by
  cases x with
  | elsewhere f => exact h
  | inbound op sender nowMs fates =>
    have hop := hx op mem_cons_self
    by_cases hintro : op.body.introduces = true
    · exact wp_ending (handle_introducing hop hintro h hclean) fates
    · intro g a m' hm'
      have hrow := (act_inbound (p.consenting authority) s op sender nowMs fates).rows g a
      rw [hm'] at hrow
      generalize hold : s.row g a = old at hrow
      cases hrow with
      | same => exact h g a m' hold
      | kicked m => exact (h g a m hold).of_same rfl rfl
      | roleSet m => exact (h g a m hold).of_same rfl rfl
      | left m => exact (h g a m hold).of_same rfl rfl
      | revived m _ join e _ hrejoin =>
        rw [hrejoin.body] at hintro
        exact absurd rfl hintro
      | added _ h => exact absurd h hintro
      | reworded _ _ h => exact absurd h hintro

/-- What `#broadcastKnownContacts` tells others of a member: the founder is marked as such, and
whoever has no consent to show is left out. -/
def advertised (createdBy accountId inboxId : String) (m : ChatGroupMember) :
    Option MemberContact :=
  if createdBy ≠ "" ∧ accountId = createdBy then
    some ⟨accountId, inboxId, m.displayName.getD "", true, m.proof⟩
  else m.proof.map fun q => ⟨accountId, inboxId, m.displayName.getD "", false, some q⟩

/-- What is told of a member is accepted, with its consent, by whoever verifies as we do and
knows the same founder. -/
def Welcome (authority : AccountAuthority) (g a : String) (m : ChatGroupMember) : Prop :=
  ∀ (τ : Type) (r : Peers τ) (theirs : AccountAuthority) (createdBy inboxId : String)
    (contact : MemberContact) (t : World τ), r.authority = true →
    theirs.verifyMemberJoinProof = authority.verifyMemberJoinProof →
    m.proof ≠ none → advertised createdBy (trim a) inboxId m = some contact →
    wp (warrantOf (r.consenting theirs) (trim g) createdBy (trim a) contact)
      (fun warrant _ => warrant = (true, m.proof)) (fun _ => True) (fun _ => True) t

theorem Reverifies.welcome {g a : String} {m : ChatGroupMember}
    (h : Reverifies authority g a m) : Welcome authority g a m := by
  intro τ r theirs createdBy inboxId contact t hauth hsame hproof hadv
  obtain ⟨q, hq⟩ := ne_none_iff_exists'.1 hproof
  have hproven : Proven (r.consenting theirs) (trim g) (trim a) (m.displayName.getD "")
      m.proof := by
    obtain ⟨q', hcarried, hv⟩ := AccountAuthority.carried_of_verify (h q hq)
    refine ⟨hauth, q', hq ▸ hcarried, ?_⟩
    rw [consenting_verify, hsame, AccountAuthority.verify_account (trim_trim (trim a))]
    exact hv
  unfold advertised at hadv
  unfold warrantOf
  by_cases hfounder : createdBy ≠ "" ∧ trim a = createdBy
  · rw [if_pos hfounder, some_inj] at hadv
    subst hadv
    rw [if_pos rfl, if_pos hfounder]
    refine wp_bind (verifyConsent_decides (fun hnot => absurd hproven hnot) ?_ trivial trivial)
    intro _
    exact wp_pure rfl
  · rw [if_neg hfounder, hq, map_some, some_inj] at hadv
    rw [hq] at hproven
    subst hadv
    rw [if_neg Bool.false_ne_true]
    refine wp_bind (verifyConsent_decides (fun hnot => absurd hproven hnot) ?_ trivial trivial)
    intro _
    rw [hq]
    exact wp_pure rfl

/-- **Signed names.** Where every consent that is stored at the start covers the name it is
stored with, and no op strips a row of its consent's name or styles a founder, every row is as
its member has it, and what is forwarded of it is accepted. -/
theorem run_vouched (authority : AccountAuthority) (p : Peers ω) (s : World ω)
    (acts : List (Act ω)) (hs : ∀ g a m, s.row g a = some m → Reverifies authority g a m)
    (h : Runs.Meets (act (p.consenting authority)) (Clean (p.consenting authority)) s acts) :
    ∀ g a m, (Runs.run (act (p.consenting authority)) s acts).row g a = some m →
      Vouched authority s (receivedOps acts) g a m ∧ Welcome authority g a m := by
  have hrun : ∀ (todo : List (Act ω)) (t : World ω),
      (∀ op ∈ receivedOps todo, op ∈ receivedOps acts) →
      RosterVouched authority s (receivedOps acts) t →
      Runs.Meets (act (p.consenting authority)) (Clean (p.consenting authority)) t todo →
      RosterVouched authority s (receivedOps acts)
        (Runs.run (act (p.consenting authority)) t todo) := by
    intro todo
    induction todo with
    | nil => exact fun t _ ht _ => ht
    | cons x todo ih =>
      intro t hsub ht hmeets
      have hsplit : receivedOps (x :: todo) = receivedOps [x] ++ receivedOps todo :=
        filterMap_append (l := [x])
      rw [hsplit] at hsub
      refine ih _ (fun op hop => hsub op (mem_append_right _ hop)) ?_ hmeets.2
      exact act_vouched x (fun op hop => hsub op (mem_append_left _ hop)) ht hmeets.1
  have hstart : RosterVouched authority s (receivedOps acts) s := by
    intro g a m hm
    exact ⟨hs g a m hm, fun name hname => .inl ⟨m, hm, hname⟩⟩
  intro g a m hm
  have hvouched := hrun acts s (fun _ hop => hop) hstart h g a m hm
  exact ⟨hvouched, hvouched.consent.welcome⟩

end Runs

/-! ### A rejoin under a blank name -/

/-- An authority whose signatures spell out what they sign. -/
def plainAuthority : AccountAuthority where
  keyId := "account"
  alg := "plain"
  base64ToBytes s := some (s.toList.map fun c => UInt8.ofNat c.toNat)
  verify ref claim sigBytes :=
    decide (ref.signerPublicKeyB64 = "key of " ++ ref.accountId ∧
      sigBytes = (claim.accountId ++ " in " ++ claim.groupId ++ " as <" ++
        claim.displayName ++ ">").toList.map fun c => UInt8.ofNat c.toNat)

/-- A server that has an invite to the group to give, issued at 5. -/
def invitingPeers : Peers Unit :=
  { lonePeers with
    authority := true
    getStoredInviteEnvelope := fun _ _ => some ⟨"group", "grp_1", 5⟩
    authorizeInviteJoin := fun _ _ _ => pure true }

def carolLeft : ChatGroupMember :=
  ⟨.member, .removed, some "Carol", 1, 3, some ⟨"key of carol", "carol in grp_1 as <Carol>"⟩⟩

/-- Carol joined the group, and left it again. -/
def withoutCarol : World Unit where
  groups := OrdMap.empty.set "grp_1" ⟨"Club", "", "me", by decide, 1, 1⟩
  memberships := OrdMap.empty.set ("grp_1", "carol") carolLeft
  rest := ()

/-- She joins again, under the name that `sig` signs. -/
def carolJoins (displayName sig : String) : GroupOp :=
  ⟨"grp_1", trim_grp_1, 6, "gop_1",
    .memberJoin ⟨"carol", "inv_1", displayName, ⟨"key of carol", sig⟩⟩⟩

theorem reverifies_withoutCarol (g a : String) (m : ChatGroupMember)
    (hm : withoutCarol.row g a = some m) : Reverifies plainAuthority g a m := by
  have hrow : (if (trim g, trim a) = ("grp_1", "carol") then some carolLeft else none) =
      some m := by
    rw [← hm]
    unfold row withoutCarol
    rw [OrdMap.get?_set]
    rfl
  split_ifs at hrow with hat
  obtain ⟨hg, ha⟩ := Prod.mk.inj hat
  have heq : carolLeft = m := some_inj.1 hrow
  unfold Reverifies
  rw [← heq, hg, ha]
  intro q hq
  have hq : q = ⟨"key of carol", "carol in grp_1 as <Carol>"⟩ := (some_inj.1 hq).symm
  rw [hq]
  decide

/-- She signs her name again. -/
theorem run_vouched_carol : ∃ m,
    (Runs.run (act (invitingPeers.consenting plainAuthority)) withoutCarol
      [.inbound (carolJoins "Carol" "carol in grp_1 as <Carol>") "carol" 7 []]).row
        "grp_1" "carol" = some m ∧
    Vouched plainAuthority withoutCarol [carolJoins "Carol" "carol in grp_1 as <Carol>"]
      "grp_1" "carol" m ∧ Welcome plainAuthority "grp_1" "carol" m := by
  have hclean : Runs.Meets (act (invitingPeers.consenting plainAuthority))
      (Clean (invitingPeers.consenting plainAuthority)) withoutCarol
      [.inbound (carolJoins "Carol" "carol in grp_1 as <Carol>") "carol" 7 []] := by
    refine ⟨?_, trivial⟩
    intro o ho _
    have ho : o = _ := mem_singleton.1 ho
    subst ho
    refine ⟨fun hstripped => ?_, fun hstyled => ?_⟩
    · exact absurd hstripped.1 (by decide)
    · exact absurd hstyled.1 (by decide)
  refine ⟨revivedRow carolLeft .member "Carol"
      (some ⟨"key of carol", "carol in grp_1 as <Carol>"⟩) 7, ?_,
    run_vouched plainAuthority invitingPeers withoutCarol _ reverifies_withoutCarol hclean
      "grp_1" "carol" _ ?_⟩ <;> decide

/-- **A blank rejoin.** Carol signs a blank name this time. Her row is given that consent, and
keeps the name she had. -/
theorem blank_rejoin : ¬ ∀ (authority : AccountAuthority) (p : Peers Unit) (s : World Unit)
    (acts : List (Act Unit)), (∀ g a m, s.row g a = some m → Reverifies authority g a m) →
      ∀ g a m, (Runs.run (act (p.consenting authority)) s acts).row g a = some m →
        Vouched authority s (receivedOps acts) g a m := by
  intro h
  have hvouched := h plainAuthority invitingPeers withoutCarol
    [.inbound (carolJoins "" "carol in grp_1 as <>") "carol" 7 []] reverifies_withoutCarol
    "grp_1" "carol"
    (revivedRow carolLeft .member "" (some ⟨"key of carol", "carol in grp_1 as <>"⟩) 7) (by decide)
  have hconsent := hvouched.consent ⟨"key of carol", "carol in grp_1 as <>"⟩ rfl
  exact absurd hconsent (by decide)

end RezChat.Groups
