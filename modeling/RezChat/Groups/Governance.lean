/-
Two laws of the rosters of a server, over whole runs of inbound group ops.

A row that was removed becomes active again only by a rejoin of that very member,
with a live invite of ours issued after the removal (`run_notResurrected`).

The roster is governed (`run_governed`): the founder keeps its row, nobody else is
given the founder's role, kicks and roles are an admin's doing, and nobody is added
without a warrant. The first of these needs the founder check to read the group:
`#isCreator` takes a group that it cannot read for one without a founder, and the kick
goes through (`founder_kicked`).

Each law is about one step in `Roster.lean`'s terms, what can become of a row, and is
carried along the run from there.
-/
import RezChat.Lib.Runs
import RezChat.Groups.Roster

set_option autoImplicit false

namespace RezChat.Groups

open Inbox (trim trim_trim)
open GroupStore Applier Runs SameRosters
open Proc

variable {ω : Type} {p : Peers ω} {s : World ω} {op : GroupOp}

/-! ## Runs -/

/-- What happens at a server, as far as its rosters are concerned: an op comes in
from some account, at some time by the server's clock, or the rest of the server
changes. -/
inductive Act (ω : Type) where
  | inbound (op : GroupOp) (senderAccountId : String) (nowMs : Int) (fates : List Fate)
  | elsewhere (f : ω → ω)

/-- The state after it. -/
def act (p : Peers ω) (s : World ω) : Act ω → World ω
  | .inbound op sender nowMs fates => (handle p op sender nowMs fates s).state
  | .elsewhere f => { s with rest := f s.rest }

theorem act_inbound (p : Peers ω) (s : World ω) (op : GroupOp) (sender : String) (nowMs : Int)
    (fates : List Fate) :
    Turned p s op sender nowMs (act p s (.inbound op sender nowMs fates)) :=
  wp_ending (handle_turned sender nowMs) fates

theorem act_elsewhere (p : Peers ω) (s : World ω) (f : ω → ω) :
    SameRosters s (act p s (.elsewhere f)) :=
  sameRosters_rest s _

/-! ### Anti-resurrection -/

/-- A row that is removed becomes active only by its member's rejoin. -/
def NotResurrected (p : Peers ω) (s : World ω) : Act ω → Prop
  | .inbound op sender nowMs fates => ∀ g a m m', s.row g a = some m → m.state = .removed →
      (act p s (.inbound op sender nowMs fates)).row g a = some m' → m'.state = .active →
      ∃ join e, Rejoin p s op sender nowMs g a join e ∧ m.updatedAtMs < e.createdAtMs
  | .elsewhere f => ∀ g a, (act p s (.elsewhere f)).row g a = s.row g a

/-- The clock does not read less than `t`. -/
def Act.NotBefore (t : Int) : Act ω → Prop
  | .inbound _ _ nowMs _ => t ≤ nowMs
  | .elsewhere _ => True

/-- A row that is removed, and so stays until its member rejoins with an invite issued
later. -/
def RevivedByRejoin (p : Peers ω) (s : World ω) (acts : List (Act ω)) (g a : String)
    (removedAtMs : Int) : Prop :=
  ∃ before op sender nowMs fates after, acts = before ++ .inbound op sender nowMs fates :: after ∧
    ∃ join e, Rejoin p (run (act p) s before) op sender nowMs g a join e ∧
      ((∀ x ∈ before, x.NotBefore removedAtMs) → removedAtMs < e.createdAtMs)

/-- What an op does to a removed row. -/
theorem removed_turned {t : World ω} {sender : String} {nowMs : Int}
    (h : Turned p s op sender nowMs t) {g a : String} {m : ChatGroupMember}
    (hm : s.row g a = some m) (hremoved : m.state = .removed) :
    ∃ m', t.row g a = some m' ∧
      (m'.state = .removed ∧ (m'.updatedAtMs = m.updatedAtMs ∨ m'.updatedAtMs = nowMs) ∨
        m'.state = .active ∧ ∃ join e, Rejoin p s op sender nowMs g a join e ∧
          m.updatedAtMs < e.createdAtMs) := by
  have hrow := h.rows g a
  rw [hm] at hrow
  generalize t.row g a = new at hrow ⊢
  cases hrow with
  | same => exact ⟨m, rfl, .inl ⟨hremoved, .inl rfl⟩⟩
  | kicked => exact ⟨_, rfl, .inl ⟨rfl, .inr rfl⟩⟩
  | roleSet => exact ⟨_, rfl, .inl ⟨hremoved, .inr rfl⟩⟩
  | left => exact ⟨_, rfl, .inl ⟨rfl, .inr rfl⟩⟩
  | revived m m' join e _ hrejoin hfresh hactive =>
    exact ⟨m', rfl, .inr ⟨hactive, join, e, hrejoin, hfresh⟩⟩
  | reworded m m' _ hw =>
    exact ⟨m', rfl, .inl ⟨hw.state.trans hremoved, .inl hw.updatedAtMs⟩⟩

/-- A run that ends with the row active went through a rejoin. -/
theorem revived_of_active :
    ∀ (acts : List (Act ω)) (s : World ω) {g a : String} {m m' : ChatGroupMember},
      s.row g a = some m → m.state = .removed →
      (run (act p) s acts).row g a = some m' → m'.state = .active →
      ∀ t, t ≤ m.updatedAtMs → RevivedByRejoin p s acts g a t := by
  have hmain : ∀ (acts : List (Act ω)) (s : World ω) (g a : String) (m m' : ChatGroupMember)
      (t : Int), s.row g a = some m → m.state = .removed →
      (run (act p) s acts).row g a = some m' → m'.state = .active →
      ∃ before op sender nowMs fates after,
        acts = before ++ .inbound op sender nowMs fates :: after ∧
        ∃ join e, Rejoin p (run (act p) s before) op sender nowMs g a join e ∧
          (t ≤ m.updatedAtMs → (∀ x ∈ before, x.NotBefore t) → t < e.createdAtMs) := by
    intro acts
    induction acts with
    | nil =>
      intro s g a m m' t hm hremoved hm' hactive
      rw [run_nil, hm, Option.some_inj] at hm'
      rw [← hm', hremoved] at hactive
      cases hactive
    | cons x acts ih =>
      intro s g a m m' t hm hremoved hm' hactive
      rw [run_cons] at hm'
      cases x with
      | elsewhere f =>
        obtain ⟨before, op, sender, nowMs, fates, after, rfl, join, e, h, hfresh⟩ :=
          ih (act p s (.elsewhere f)) g a m m' t hm hremoved hm' hactive
        refine ⟨.elsewhere f :: before, op, sender, nowMs, fates, after, rfl, join, e, ?_, ?_⟩
        · rw [run_cons]
          exact h
        intro ht hx
        exact hfresh ht fun x hmem => hx x (List.mem_cons_of_mem _ hmem)
      | inbound op sender nowMs fates =>
        obtain ⟨m₁, hm₁, ⟨hremoved₁, hstamp⟩ | ⟨_, join, e, hrejoin, hfresh⟩⟩ :=
          removed_turned (act_inbound p s op sender nowMs fates) hm hremoved
        · -- still removed, with the old stamp or that of this op
          obtain ⟨before, op', sender', nowMs', fates', after, rfl, join, e, h, hfresh⟩ :=
            ih _ g a m₁ m' t hm₁ hremoved₁ hm' hactive
          refine ⟨.inbound op sender nowMs fates :: before, op', sender', nowMs', fates', after,
            rfl, join, e, ?_, ?_⟩
          · rw [run_cons]
            exact h
          intro ht hx
          refine hfresh ?_ fun x hmem => hx x (List.mem_cons_of_mem _ hmem)
          have hnow : t ≤ nowMs := hx _ List.mem_cons_self
          omega
        · refine ⟨[], op, sender, nowMs, fates, acts, rfl, join, e, hrejoin, ?_⟩
          intro ht _
          omega
  intro acts s g a m m' hm hremoved hm' hactive t ht
  obtain ⟨before, op, sender, nowMs, fates, after, hacts, join, e, h, hfresh⟩ :=
    hmain acts s g a m m' t hm hremoved hm' hactive
  exact ⟨before, op, sender, nowMs, fates, after, hacts, join, e, h, hfresh ht⟩

/-- A row that becomes removed is stamped with the time of it. -/
def RemovalStamped (p : Peers ω) (s : World ω) : Act ω → Prop
  | .inbound op sender nowMs fates => ∀ g a m m', s.row g a = some m → m.state ≠ .removed →
      (act p s (.inbound op sender nowMs fates)).row g a = some m' → m'.state = .removed →
      m'.updatedAtMs = nowMs
  | .elsewhere _ => True

theorem act_removalStamped (p : Peers ω) (s : World ω) (x : Act ω) : RemovalStamped p s x := by
  cases x with
  | elsewhere f => trivial
  | inbound op sender nowMs fates =>
    intro g a m m' hm hstate hm' hremoved
    have hrow := (act_inbound p s op sender nowMs fates).rows g a
    rw [hm, hm'] at hrow
    cases hrow with
    | same => exact absurd hremoved hstate
    | kicked => rfl
    | roleSet => exact absurd hremoved hstate
    | left => rfl
    | revived _ _ _ _ _ _ _ hactive =>
      rw [hactive] at hremoved
      cases hremoved
    | reworded _ _ _ hw => exact absurd (hw.state.symm.trans hremoved) hstate

theorem act_notResurrected (p : Peers ω) (s : World ω) (x : Act ω) : NotResurrected p s x := by
  cases x with
  | elsewhere f => exact fun g a => (act_elsewhere p s f).rows g a
  | inbound op sender nowMs fates =>
    intro g a m m' hm hremoved hm' hactive
    obtain ⟨m₁, hm₁, ⟨hremoved₁, _⟩ | ⟨_, hrejoin⟩⟩ :=
      removed_turned (act_inbound p s op sender nowMs fates) hm hremoved
    · rw [hm', Option.some_inj] at hm₁
      rw [← hm₁, hactive] at hremoved₁
      cases hremoved₁
    · exact hrejoin

/-- The law of a run: no step revives a removed row but its member's rejoin with an
invite issued after the time the row carries; a row carries the time of its removal
or, touched since, a later one; so a row that is removed at the start and active at
the end was rejoined in between with an invite issued after its removal, the clock
not going back. -/
def NeverResurrected (p : Peers ω) (s : World ω) (acts : List (Act ω)) : Prop :=
  Meets (act p) (NotResurrected p) s acts ∧ Meets (act p) (RemovalStamped p) s acts ∧
    ∀ g a m m', s.row g a = some m → m.state = .removed →
      (run (act p) s acts).row g a = some m' → m'.state = .active →
      RevivedByRejoin p s acts g a m.updatedAtMs

/-- What every step satisfies, every step of a run satisfies. -/
theorem meets_of_forall {q : World ω → Act ω → Prop} (h : ∀ s x, q s x) (s : World ω)
    (acts : List (Act ω)) : Meets (act p) q s acts :=
  Meets.mono _ (fun s x _ => h s x) acts (meets_true _ acts s)

/-- **Anti-resurrection.** -/
theorem run_notResurrected (p : Peers ω) (s : World ω) (acts : List (Act ω)) :
    NeverResurrected p s acts := by
  refine ⟨meets_of_forall (act_notResurrected p) s acts,
    meets_of_forall (act_removalStamped p) s acts, ?_⟩
  intro g a m m' hm hremoved hm' hactive
  exact revived_of_active acts s hm hremoved hm' hactive _ (Int.le_refl _)

/-! ### Governance -/

/-- The founder's row keeps its role and its state, but for the founder's own leave, and
its own rejoin after that. -/
def FounderKept (p : Peers ω) (s : World ω) : Act ω → Prop
  | .inbound op sender nowMs fates => ∀ g a m, IsFounder s g a → s.row g a = some m →
      ∃ m', (act p s (.inbound op sender nowMs fates)).row g a = some m' ∧
        (m'.role = m.role ∧ m'.state = m.state ∨
          (op.body = .leave (trim sender) ∧ op.groupId = trim g ∧ trim sender = trim a) ∨
          (m.state = .removed ∧ ∃ join e, Rejoin p s op sender nowMs g a join e))
  | .elsewhere f => ∀ g a, (act p s (.elsewhere f)).row g a = s.row g a

/-- A kick and a role are an admin's doing. -/
def AdminsAct (p : Peers ω) (s : World ω) : Act ω → Prop
  | .inbound op sender nowMs fates =>
      (∃ target, op.body = .kick target ∨ ∃ role, op.body = .setRole target role) →
      (∃ g a, (act p s (.inbound op sender nowMs fates)).row g a ≠ s.row g a) →
      AdminIn s op.groupId sender
  | .elsewhere f => ∀ g a, (act p s (.elsewhere f)).row g a = s.row g a

/-- Nobody but its founder holds the founder's role in a group. -/
def OnlyFounders (s : World ω) : Prop :=
  ∀ g a m, s.row g a = some m → m.role = .creator → IsFounder s g a

/-- Whoever has a row it did not have is warranted. -/
def Newcomers (p : Peers ω) (s₀ s : World ω) : Prop :=
  ∀ g a m, s.row g a = some m → s₀.row g a = none → Warranted p s g a m

/-- The roster is governed throughout a run. -/
def Governed (p : Peers ω) (s : World ω) (acts : List (Act ω)) : Prop :=
  Meets (act p) (FounderKept p) s acts ∧
  (OnlyFounders s → OnlyFounders (run (act p) s acts)) ∧
  Meets (act p) (AdminsAct p) s acts ∧
  Newcomers p s (run (act p) s acts)

/-- In an op aimed at the founder of its group, the founder check reads the group. -/
def FounderChecked (s : World ω) : Act ω → Prop
  | .inbound op sender _ fates => ∀ target,
      (op.body = .kick target ∨ ∃ role, op.body = .setRole target role) →
      IsFounder s op.groupId target →
      Proc.After (standing op (trim sender)) (fun _ => Ends (getGroup op.groupId)
        (fun _ _ _ => True) (fun _ _ => False) (fun _ _ => True)) fates s
  | .elsewhere _ => True

section Founder

attribute [local irreducible] Ends

variable {g a : String} {fates : List Fate}

/-- A founder check that reads the group finds its founder. -/
theorem isCreator_founder (hf : IsFounder s g a) (hne : trim a ≠ "")
    (hread : Ends (getGroup g) (fun _ _ _ => True) (fun _ _ => False) (fun _ _ => True)
      fates s) :
    Ends (isCreator g a) (fun b _ t => b = true ∧ t = s) (fun _ _ => False)
      (fun _ t => t = s) fates s := by
  unfold isCreator orElse
  rw [if_neg hne, ends_bind, ends_tryCatch]
  have hgroup : wp (getGroup g) (fun grp t => grp = s.group g ∧ t = s) (fun t => t = s)
      (fun t => t = s) s := getGroup_spec ⟨rfl, rfl⟩ rfl rfl
  refine ends_and hread (ends_of_wp hgroup) ?_ ?_ ?_
  · rintro grp f t - ⟨rfl, rfl⟩
    rw [ends_pure]
    unfold IsFounder World.founder at hf
    obtain ⟨grp, hgrp, hby⟩ := Option.map_eq_some_iff.mp hf
    rw [hgrp]
    exact ⟨decide_eq_true hby, rfl⟩
  · intro f t hfalse
    exact hfalse.elim
  · intro f t _ ht
    exact ht

/-- Nothing has a row under an empty id. -/
theorem updateRow_unnamed {f : ChatGroupMember → ChatGroupMember} (ha : trim a = "")
    {R : Bool → World ω → Prop} {E D : World ω → Prop} (hE : E s) :
    wp (updateRow g a f) R E D s := by
  unfold updateRow withIds
  rw [if_pos (.inr ha)]
  exact wp_throw hE

/-- A handler that stops at the founder touches nobody. -/
theorem ends_unlessFounder {k : Bool → Proc (World ω) Bool} (hf : IsFounder s g a)
    (hread : Ends (getGroup g) (fun _ _ _ => True) (fun _ _ => False) (fun _ _ => True)
      fates s)
    (hfounder : k true = pure false)
    (hunnamed : trim a = "" → wp (k false) (fun _ => SameRosters s) (SameRosters s)
      (SameRosters s) s) :
    Ends (isCreator g a >>= k) (fun _ _ => SameRosters s) (fun _ => SameRosters s)
      (fun _ => SameRosters s) fates s := by
  have hs := refl s
  by_cases hne : trim a = ""
  · refine ends_of_wp (wp_bind ?_)
    unfold isCreator
    rw [if_pos hne]
    exact wp_pure (hunnamed hne)
  · rw [ends_bind]
    refine Proc.Ends.mono (isCreator_founder hf hne hread) ?_ ?_ ?_
    · rintro b f t ⟨rfl, rfl⟩
      rw [hfounder, ends_pure]
      exact hs
    · intro f t hfalse
      exact hfalse.elim
    · rintro f t rfl
      exact hs

/-- An op aimed at the founder touches nobody, if the founder check reads the group. -/
theorem applyMemberOp_founder {target sender : String} {isAdmin : Bool} {nowMs : Int}
    (haimed : op.body = .kick target ∨ ∃ role, op.body = .setRole target role)
    (hf : IsFounder s op.groupId target)
    (hread : Ends (getGroup op.groupId) (fun _ _ _ => True) (fun _ _ => False)
      (fun _ _ => True) fates s) :
    Ends (applyMemberOp p op sender isAdmin nowMs) (fun _ _ => SameRosters s)
      (fun _ => SameRosters s) (fun _ => SameRosters s) fates s := by
  have hs := refl s
  have hpure : Ends (pure false : Proc (World ω) Bool) (fun _ _ => SameRosters s)
      (fun _ => SameRosters s) (fun _ => SameRosters s) fates s := by
    rw [ends_pure]
    exact hs
  unfold applyMemberOp
  rcases haimed with hbody | ⟨role, hbody⟩
  · rw [hbody]
    dsimp only
    split
    · refine ends_unlessFounder hf hread rfl ?_
      intro hunnamed
      exact wp_bind (updateRow_unnamed hunnamed hs)
    · exact hpure
  · rw [hbody]
    dsimp only
    split
    · refine ends_unlessFounder hf hread rfl ?_
      intro hunnamed
      split
      · exact wp_pure hs
      · exact wp_bind (updateRow_unnamed hunnamed hs)
    · exact hpure

theorem handle_founder {sender target : String} {nowMs : Int}
    (haimed : op.body = .kick target ∨ ∃ role, op.body = .setRole target role)
    (hf : IsFounder s op.groupId target)
    (hchecked : FounderChecked s (.inbound op sender nowMs fates)) :
    SameRosters s (act p s (.inbound op sender nowMs fates)) := by
  have hs := refl s
  show SameRosters s (handle p op sender nowMs fates s).state
  apply Proc.Ends.state
  unfold handle
  dsimp only
  split
  · rw [ends_pure]
    exact hs
  · -- an op that is aimed at somebody is no join
    split
    · rename_i join hjoin
      rcases haimed with hbody | ⟨role, hbody⟩ <;> rw [hbody] at hjoin <;> cases hjoin
    rw [applyGatedOp, ends_bind]
    have hstanding : wp (standing op (trim sender)) (fun _ t => t = s)
        (fun t => t = s) (fun t => t = s) s :=
      standing_spec (trim_trim _) rfl (fun _ _ _ => rfl) rfl
    refine ends_and (hchecked target haimed hf) (ends_of_wp hstanding) ?_ ?_ ?_
    · rintro gate f t hread rfl
      cases gate with
      | none =>
        rw [ends_pure]
        exact hs
      | some isAdmin =>
        dsimp only
        rw [ends_bind]
        refine Proc.Ends.mono (applyMemberOp_founder haimed hf hread) ?_ (fun _ _ h => h)
          (fun _ _ h => h)
        intro failed f t' h
        rw [ends_pure]
        exact h
    · rintro f t - rfl
      exact hs
    · rintro f t - rfl
      exact hs

end Founder

theorem act_founderKept (s : World ω) (x : Act ω) (hx : FounderChecked s x) :
    FounderKept p s x := by
  cases x with
  | elsewhere f => exact fun g a => (act_elsewhere p s f).rows g a
  | inbound op sender nowMs fates =>
    intro g a m hf hm
    have hrow := (act_inbound p s op sender nowMs fates).rows g a
    have haimed : ∀ target, (op.body = .kick target ∨ ∃ role, op.body = .setRole target role) →
        op.groupId = trim g → trim target = trim a →
        (act p s (.inbound op sender nowMs fates)).row g a = some m := by
      intro target hbody hg ha
      have hgroup : trim g = trim op.groupId := by rw [hg, trim_trim]
      rw [(handle_founder hbody (hf.congr hgroup ha.symm) hx).rows, hm]
    rw [hm] at hrow
    generalize (act p s (.inbound op sender nowMs fates)).row g a = new at hrow haimed ⊢
    cases hrow with
    | same => exact ⟨m, rfl, .inl ⟨rfl, rfl⟩⟩
    | kicked _ target hbody hg ha _ =>
      exact ⟨m, haimed target (.inl hbody) hg ha, .inl ⟨rfl, rfl⟩⟩
    | roleSet _ target role hbody hg ha _ _ =>
      exact ⟨m, haimed target (.inr ⟨role, hbody⟩) hg ha, .inl ⟨rfl, rfl⟩⟩
    | left _ hbody hg ha => exact ⟨_, rfl, .inr (.inl ⟨hbody, hg, ha⟩)⟩
    | revived _ m' join e hremoved hrejoin =>
      exact ⟨m', rfl, .inr (.inr ⟨hremoved, join, e, hrejoin⟩)⟩
    | reworded _ m' _ hw => exact ⟨m', rfl, .inl ⟨hw.role, hw.state⟩⟩

theorem act_adminsAct (s : World ω) (x : Act ω) : AdminsAct p s x := by
  cases x with
  | elsewhere f => exact fun g a => (act_elsewhere p s f).rows g a
  | inbound op sender nowMs fates =>
    rintro ⟨target, haimed⟩ ⟨g, a, hne⟩
    have hrow := (act_inbound p s op sender nowMs fates).rows g a
    have hintro : op.body.introduces = false := by
      rcases haimed with hbody | ⟨role, hbody⟩ <;> rw [hbody] <;> rfl
    have hadmin : op.groupId = trim g → AdminIn s g sender → AdminIn s op.groupId sender := by
      intro hg h
      refine h.congr ?_ rfl
      rw [hg, trim_trim]
    generalize (act p s (.inbound op sender nowMs fates)).row g a = new at hrow hne
    generalize s.row g a = old at hrow hne
    cases hrow with
    | same => exact absurd rfl hne
    | kicked _ _ _ hg _ h => exact hadmin hg h
    | roleSet _ _ _ _ hg _ _ h => exact hadmin hg h
    | left _ hleave =>
      rcases haimed with hbody | ⟨role, hbody⟩ <;> rw [hbody] at hleave <;> cases hleave
    | revived _ _ _ _ _ hrejoin =>
      have hjoin := hrejoin.body
      rcases haimed with hbody | ⟨role, hbody⟩ <;> rw [hbody] at hjoin <;> cases hjoin
    | added _ h =>
      rw [hintro] at h
      cases h
    | reworded _ _ h =>
      rw [hintro] at h
      cases h

/-- No op makes a founder of anybody. -/
theorem act_onlyFounders (s : World ω) (x : Act ω) (h : OnlyFounders s) :
    OnlyFounders (act p s x) := by
  cases x with
  | elsewhere f => exact h
  | inbound op sender nowMs fates =>
    intro g a m' hm' hrole
    have hturned := act_inbound p s op sender nowMs fates
    unfold IsFounder
    rw [hturned.founders]
    have hrow := hturned.rows g a
    rw [hm'] at hrow
    generalize hold : s.row g a = old at hrow
    cases hrow with
    | same => exact h g a m' hold hrole
    | kicked m => exact h g a m hold hrole
    | roleSet _ _ role _ _ _ hcreator => exact absurd hrole hcreator
    | left m => exact h g a m hold hrole
    | revived _ _ _ _ _ _ _ _ hmember =>
      rw [hmember] at hrole
      cases hrole
    | added _ _ _ _ hmember =>
      rw [hmember] at hrole
      cases hrole
    | reworded m _ _ hw => exact h g a m hold (hw.role.symm.trans hrole)

/-- A warrant lasts. -/
theorem act_newcomers {s₀ s : World ω} (x : Act ω) (h : Newcomers p s₀ s) :
    Newcomers p s₀ (act p s x) := by
  cases x with
  | elsewhere f => exact h
  | inbound op sender nowMs fates =>
    intro g a m' hm' hnew
    have hturned := act_inbound p s op sender nowMs fates
    unfold Warranted IsFounder
    rw [hturned.founders]
    have hrow := hturned.rows g a
    rw [hm'] at hrow
    generalize hold : s.row g a = old at hrow
    cases hrow with
    | same => exact h g a m' hold hnew
    | kicked m => exact (h g a m hold hnew).imp_right fun hc => hc.of_proof rfl
    | roleSet m => exact (h g a m hold hnew).imp_right fun hc => hc.of_proof rfl
    | left m => exact (h g a m hold hnew).imp_right fun hc => hc.of_proof rfl
    | revived _ _ _ _ _ _ _ _ _ hw => exact hw
    | added _ _ _ _ _ hw => exact hw
    | reworded m _ _ hw => exact hw.warranted (h g a m hold hnew)

theorem newcomers_run (p : Peers ω) (s : World ω) (acts : List (Act ω)) :
    Newcomers p s (run (act p) s acts) := by
  refine invariant_all (act p) (fun t x ht => act_newcomers x ht) acts s ?_
  intro g a m hm hnew
  rw [hm] at hnew
  cases hnew

/-- **Governance.** Where no kick and no role aimed at a founder meets a founder check
that cannot read the group, the founder's row is its own, founders are not made, only
admins kick and set roles, and newcomers are warranted. -/
theorem run_governed (p : Peers ω) (s : World ω) (acts : List (Act ω))
    (h : Runs.Meets (act p) FounderChecked s acts) : Governed p s acts := by
  refine ⟨?_, ?_, ?_, ?_⟩
  · exact Runs.Meets.mono _ (fun s x hx => act_founderKept s x hx) acts h
  · exact invariant_all (act p) act_onlyFounders acts s
  · exact meets_of_forall act_adminsAct s acts
  · exact newcomers_run p s acts

/-- **What needs no founder check.** In every run, whatever calls fail, founders are not made, only
admins kick and set roles, and newcomers are warranted. -/
theorem run_rosterWarranted (p : Peers ω) (s : World ω) (acts : List (Act ω)) :
    (OnlyFounders s → OnlyFounders (run (act p) s acts)) ∧ Meets (act p) (AdminsAct p) s acts ∧
      Newcomers p s (run (act p) s acts) := by
  exact ⟨invariant_all (act p) act_onlyFounders acts s, meets_of_forall act_adminsAct s acts,
    newcomers_run p s acts⟩

/-! ### A founder check that cannot read the group -/

/-- A server with no services beside its stores. -/
def lonePeers : Peers Unit where
  ownerAccountId := "me"
  authority := false
  verifyMemberJoinProof _ _ _ _ := false
  getStoredInviteEnvelope _ _ := none
  authorizeInviteJoin _ _ _ := pure false
  ensureKnownAccount _ _ := pure ()
  ensureThreadTitle _ _ := pure ()
  lockThread _ := pure ()
  persistJoinSystemMessage _ _ _ := pure false
  fileTransfer := false
  storeFile _ _ := pure ()
  emitMembersUpdated _ := pure ()
  emitGroupUpdated _ := pure ()
  applyChannelOp _ _ _ := pure false
  answerSyncRequest _ _ := pure ()
  bootstrapCoMemberLink _ _ w := w

def seated (role : GroupRole) : ChatGroupMember := ⟨role, .active, none, 1, 1, none⟩

/-- Alice founded the group, and bob is an admin of it. -/
def aliceAndBob : World Unit where
  groups := OrdMap.empty.set "grp_1" ⟨"Club", "", "alice", by decide, 1, 1⟩
  memberships :=
    (OrdMap.empty.set ("grp_1", "alice") (seated .member)).set ("grp_1", "bob") (seated .admin)
  rest := ()

theorem trim_grp_1 : trim "grp_1" = "grp_1" := by decide

def kickAlice : GroupOp := ⟨"grp_1", trim_grp_1, 5, "gop_1", .kick "alice"⟩

/-- Bob's kick is read with the group, and nothing comes of it. -/
theorem run_governed_kick :
    Runs.Meets (act lonePeers) FounderChecked aliceAndBob [.inbound kickAlice "bob" 7 []] ∧
      Governed lonePeers aliceAndBob [.inbound kickAlice "bob" 7 []] := by
  have h : Runs.Meets (act lonePeers) FounderChecked aliceAndBob
      [.inbound kickAlice "bob" 7 []] := by
    refine ⟨?_, trivial⟩
    intro target _ _
    exact trivial
  exact ⟨h, run_governed _ _ _ h⟩

/-- **The founder is kicked.** The group cannot be read at the founder check, and bob's
kick of alice goes through. -/
theorem founder_kicked :
    ¬ Governed lonePeers aliceAndBob [.inbound kickAlice "bob" 7 [.ok, .throws]] := by
  intro h
  have hfounder : IsFounder aliceAndBob "grp_1" "alice" := by unfold IsFounder; decide
  have hkept := h.1.1 "grp_1" "alice" (seated .member) hfounder (by decide)
  have hrow : (act lonePeers aliceAndBob (.inbound kickAlice "bob" 7 [.ok, .throws])).row
      "grp_1" "alice" = some (removedRow 7 (seated .member)) := by decide
  obtain ⟨m', hm', h | ⟨hbody, -⟩ | ⟨hremoved, -⟩⟩ := hkept
  · rw [hrow, Option.some_inj] at hm'
    rw [← hm'] at h
    exact absurd h.2 (by decide)
  · exact absurd hbody (by decide)
  · exact absurd hremoved (by decide)

end RezChat.Groups
