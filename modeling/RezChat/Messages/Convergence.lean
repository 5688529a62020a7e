/-
Several mutations of one message, in any order.

The devices of an account, and the members of a group, get the mutations of a message in
different orders and some of them more than once. Which row they end with is looked at here:
`Converges` says that every list with the same mutations in it, in whatever order and with
whatever repetitions, leads to the same row.

The cores do not make it so. Of two edits the later one wins, but of two edits of the same
moment the one that came first; of two tombstones the first; an edit after a tombstone is
refused and one before it leaves its mark; and of the reactions of one account with one
emoji the last one that came counts, the time it carries is not looked at. What these races
have in common is that they are visible in the set of mutations (`Harmonious`), and a set
without them converges: `converges_iff` for a row, `projection_converges_iff` for the calls
of the store.
-/
import RezChat.Messages.Store
import Mathlib.Data.List.Induction

set_option autoImplicit false

namespace RezChat.Messages

open Inbox (trim trim_trim trimmed)
open List Option Change ChatMessage OrdMap

/-! ## Facts about a message -/

/-- A mutation of a message, and who made it. -/
structure MutationFact where
  senderAccountId : String
  change : Change

/-- The author of a message may edit it and take it back, and anybody may react. The times
that are accepted are positive. -/
def Authorized (m : ChatMessage) (f : MutationFact) : Prop :=
  match f.change with
  | .edit _ editedAtMs => m.isForeign f.senderAccountId = false ∧ 0 < editedAtMs
  | .tombstone tombstonedAtMs => m.isForeign f.senderAccountId = false ∧ 0 < tombstonedAtMs
  | .reaction emoji _ => trim f.senderAccountId ≠ "" ∧ trim emoji ≠ ""

/-- A message as it was deposited. -/
structure Original (m : ChatMessage) : Prop where
  editedAtMs : m.editedAtMs = none
  tombstonedAtMs : m.tombstonedAtMs = none

def MutationFact.apply (f : MutationFact) (m : ChatMessage) : ChatMessage :=
  f.change.apply f.senderAccountId m

/-- The row after a list of mutations. -/
def applyAll (m : ChatMessage) (fs : List MutationFact) : ChatMessage :=
  fs.foldl (fun m f => f.apply m) m

@[simp] theorem applyAll_nil (m : ChatMessage) : applyAll m [] = m := rfl

@[simp] theorem applyAll_cons (m : ChatMessage) (f : MutationFact) (fs : List MutationFact) :
    applyAll m (f :: fs) = applyAll (f.apply m) fs := rfl

theorem applyAll_concat (m : ChatMessage) (fs : List MutationFact) (f : MutationFact) :
    applyAll m (fs ++ [f]) = f.apply (applyAll m fs) := by
  rw [applyAll, foldl_append]
  rfl

theorem alike_applyAll (m : ChatMessage) (fs : List MutationFact) : Alike m (applyAll m fs) := by
  induction fs generalizing m with
  | nil => exact Alike.refl m
  | cons f fs ih => exact (alike_apply f.senderAccountId f.change m).trans (ih (f.apply m))

/-- The same row, reactions compared as sets. -/
def SameRow (m m' : ChatMessage) : Prop :=
  { m with reactions := empty } = { m' with reactions := empty } ∧
    ∀ emoji account, account ∈ m.reactors emoji ↔ account ∈ m'.reactors emoji

/-- The two lists have the same elements, in whatever order and number. -/
def SameFacts (fs gs : List MutationFact) : Prop := ∀ f, f ∈ fs ↔ f ∈ gs

/-- Every order, and every repetition, leads to the same row. -/
def Converges (m : ChatMessage) (fs : List MutationFact) : Prop :=
  ∀ gs hs, SameFacts gs fs → SameFacts hs fs → SameRow (applyAll m gs) (applyAll m hs)

/-- No two of the mutations race:
* all tombstones are of one moment;
* a message that is taken back is not edited as well;
* the latest edits have one text;
* no account both adds and removes a reaction. -/
structure Harmonious (fs : List MutationFact) : Prop where
  tombstones : ∀ s t a b, ⟨s, .tombstone a⟩ ∈ fs → ⟨t, .tombstone b⟩ ∈ fs → a = b
  untouched : ∀ s t a x b, ⟨s, .tombstone a⟩ ∈ fs → ⟨t, .edit x b⟩ ∉ fs
  edits : ∀ s t x y a, ⟨s, .edit x a⟩ ∈ fs → ⟨t, .edit y a⟩ ∈ fs →
    (∀ u z b, ⟨u, .edit z b⟩ ∈ fs → b ≤ a) → x = y
  reactions : ∀ s t e e', ⟨s, .reaction e .add⟩ ∈ fs → ⟨t, .reaction e' .remove⟩ ∈ fs →
    trim s = trim t → trim e ≠ trim e'

/-! ## One mutation -/

section One

variable {m : ChatMessage} {f : MutationFact}

theorem authorized_congr {m' : ChatMessage} (h : Alike m m') :
    Authorized m' f ↔ Authorized m f := by
  rw [Authorized, Authorized]
  cases f.change with
  | edit x a => simp only [isForeign, h.senderAccountId]
  | tombstone a => simp only [isForeign, h.senderAccountId]
  | reaction e op => exact .rfl

/-- An edit that nothing stands against. -/
theorem apply_edit {s x : String} {a : Int} (hauth : Authorized m ⟨s, .edit x a⟩)
    (htomb : m.tombstonedAtMs = none) (hlate : ∀ b, m.editedAtMs = some b → b < a) :
    (MutationFact.apply ⟨s, .edit x a⟩ m) = { m with
      text := x
      payload := m.payload.map fun p => { p with text := some x }
      editedAtMs := some a } := by
  obtain ⟨hown, hpos⟩ := hauth
  have hnot : ¬ isSet m.tombstonedAtMs = true := by rw [htomb]; decide
  have hstale : ¬ (isSet m.editedAtMs = true ∧ a ≤ m.editedAtMs.getD 0) := by
    rintro ⟨_, hle⟩
    cases he : m.editedAtMs with
    | none => rw [he] at hle; exact absurd hpos (not_lt.2 hle)
    | some b => rw [he] at hle; exact absurd (hlate b he) (not_lt.2 hle)
  have hown' : ¬ m.isForeign s = true := by rw [hown]; exact Bool.false_ne_true
  rw [MutationFact.apply, apply, verdict, editRow, if_neg hnot, if_neg hown',
    if_neg (not_le.2 hpos), if_neg hstale]
  rfl

/-- An edit that is no later than the last one. -/
theorem apply_edit_stale {s x : String} {a b : Int} (hb : m.editedAtMs = some b) (hpos : 0 < b)
    (hle : a ≤ b) : (MutationFact.apply ⟨s, .edit x a⟩ m) = m := by
  rw [MutationFact.apply, apply, verdict, editRow]
  have hset : isSet m.editedAtMs = true := by
    rw [hb]
    exact decide_eq_true (ne_of_gt hpos)
  split_ifs with h1 h2 h3 h4
  · rfl
  · rfl
  · rfl
  · rfl
  · exact absurd ⟨hset, by rw [hb]; exact hle⟩ h4

/-- The tombstone that comes first. -/
theorem apply_tombstone {s : String} {a : Int} (hauth : Authorized m ⟨s, .tombstone a⟩)
    (htomb : m.tombstonedAtMs = none) : (MutationFact.apply ⟨s, .tombstone a⟩ m) =
      { m with text := "", payload := none, tombstonedAtMs := some a } := by
  obtain ⟨hown, hpos⟩ := hauth
  have hnot : ¬ isSet m.tombstonedAtMs = true := by rw [htomb]; decide
  have hown' : ¬ m.isForeign s = true := by rw [hown]; exact Bool.false_ne_true
  rw [MutationFact.apply, apply, verdict, tombstoneRow, if_neg hown', if_neg hnot,
    if_neg (not_le.2 hpos)]
  rfl

/-- A reaction changes nothing else. -/
theorem apply_reaction (s e : String) (op : ReactionOp) :
    ∃ reactions, (MutationFact.apply ⟨s, .reaction e op⟩ m) = { m with reactions := reactions } := by
  rw [MutationFact.apply, apply, verdict, reactionRow]
  split_ifs with h
  · exact ⟨m.reactions, rfl⟩
  · exact ⟨_, rfl⟩

/-- A message that was taken back stays as it is, reactions apart. -/
theorem apply_tombstoned {a : Int} (ha : m.tombstonedAtMs = some a) (hpos : 0 < a) :
    ∃ reactions, f.apply m = { m with reactions := reactions } := by
  obtain ⟨s, ch⟩ := f
  have hset : isSet m.tombstonedAtMs = true := by
    rw [ha]
    exact decide_eq_true (ne_of_gt hpos)
  cases ch with
  | edit x b =>
    refine ⟨m.reactions, ?_⟩
    rw [MutationFact.apply, apply, verdict, editRow, if_pos hset]
    rfl
  | tombstone b =>
    refine ⟨m.reactions, ?_⟩
    rw [MutationFact.apply, apply, verdict, tombstoneRow]
    split_ifs with h1
    · rfl
    · rfl
  | reaction e op => exact apply_reaction s e op

/-- Edits and tombstones leave the reactions. -/
theorem reactions_apply (h : ∀ e op, f.change ≠ .reaction e op) :
    (f.apply m).reactions = m.reactions := by
  obtain ⟨s, ch⟩ := f
  rw [MutationFact.apply, apply]
  cases ch with
  | edit x b => rw [verdict, editRow]; split_ifs <;> rfl
  | tombstone b => rw [verdict, tombstoneRow]; split_ifs <;> rfl
  | reaction e op => exact absurd rfl (h e op)

/-- The accounts of an emoji, once those of one emoji were replaced. -/
theorem reactors_setReactors (e e' : String) (reactors : List String) :
    ((setReactors m.reactions e reactors).get? e').getD [] =
      if e' = e then reactors else m.reactors e' := by
  rw [setReactors]
  by_cases hnil : reactors = []
  · rw [if_pos hnil, get?_delete]
    by_cases he : e' = e
    · rw [if_pos he, if_pos he, hnil]
      rfl
    · rw [if_neg he, if_neg he]
      rfl
  · rw [if_neg hnil, get?_set]
    by_cases he : e' = e
    · rw [if_pos he, if_pos he]
      rfl
    · rw [if_neg he, if_neg he]
      rfl

/-- **One reaction**: the account has it, or has it not; the others do not notice. -/
theorem mem_reactors_reaction (s e e' account : String) (op : ReactionOp) :
    account ∈ (MutationFact.apply ⟨s, .reaction e op⟩ m).reactors e' ↔
      if trim e = e' ∧ trim s = account then op = .add else account ∈ m.reactors e' := by
  rw [MutationFact.apply, apply, verdict, reactionRow]
  by_cases hsame : (op = .add ↔ trim s ∈ m.reactors (trim e))
  · rw [if_pos hsame]
    show account ∈ m.reactors e' ↔ _
    by_cases hpair : trim e = e' ∧ trim s = account
    · rw [if_pos hpair, ← hpair.1, ← hpair.2, hsame]
    · rw [if_neg hpair]
  · rw [if_neg hsame]
    show account ∈ ((setReactors m.reactions (trim e) _).get? e').getD [] ↔ _
    rw [reactors_setReactors]
    by_cases he : e' = trim e
    · rw [if_pos he, he]
      cases op with
      | add =>
        have hnot : trim s ∉ m.reactors (trim e) := fun h => hsame ⟨fun _ => h, fun _ => rfl⟩
        rw [nextReactors, if_neg hnot, mem_append, mem_singleton]
        by_cases hs : trim s = account
        · simp [hs]
        · simp [hs, Ne.symm hs]
      | remove =>
        rw [nextReactors, mem_filter, decide_eq_true_iff]
        by_cases hs : trim s = account
        · simp [hs]
        · simp [hs, Ne.symm hs]
    · rw [if_neg he, if_neg fun h => he h.1.symm]

end One

/-! ## Reactions -/

section Reactions

variable {e account : String}

/-- A mutation that adds the account to those of the emoji. -/
def Adds (e account : String) (f : MutationFact) : Prop :=
  ∃ s e', f = ⟨s, .reaction e' .add⟩ ∧ trim e' = e ∧ trim s = account

/-- A mutation that removes it. -/
def Removes (e account : String) (f : MutationFact) : Prop :=
  ∃ s e', f = ⟨s, .reaction e' .remove⟩ ∧ trim e' = e ∧ trim s = account

theorem mem_reactors_of_adds {f : MutationFact} (h : Adds e account f) (m : ChatMessage) :
    account ∈ (f.apply m).reactors e := by
  obtain ⟨s, e', rfl, he, hs⟩ := h
  rw [mem_reactors_reaction, if_pos ⟨he, hs⟩]

theorem not_mem_reactors_of_removes {f : MutationFact} (h : Removes e account f)
    (m : ChatMessage) : account ∉ (f.apply m).reactors e := by
  obtain ⟨s, e', rfl, he, hs⟩ := h
  rw [mem_reactors_reaction, if_pos ⟨he, hs⟩]
  exact ReactionOp.noConfusion

/-- A mutation that does neither leaves it as it is. -/
theorem mem_reactors_of_neither {f : MutationFact} (ha : ¬ Adds e account f)
    (hr : ¬ Removes e account f) (m : ChatMessage) :
    account ∈ (f.apply m).reactors e ↔ account ∈ m.reactors e := by
  obtain ⟨s, ch⟩ := f
  cases ch with
  | edit x b => rw [reactors, reactions_apply (fun _ _ => Change.noConfusion)]; rfl
  | tombstone b => rw [reactors, reactions_apply (fun _ _ => Change.noConfusion)]; rfl
  | reaction e' op =>
    rw [mem_reactors_reaction, if_neg]
    rintro ⟨he, hs⟩
    cases op with
    | add => exact ha ⟨s, e', rfl, he, hs⟩
    | remove => exact hr ⟨s, e', rfl, he, hs⟩

/-- If the account is never removed, it is there at the end if it was or was added. -/
theorem mem_reactors_applyAll_of_no_remove {fs : List MutationFact}
    (h : ∀ f ∈ fs, ¬ Removes e account f) (m : ChatMessage) :
    account ∈ (applyAll m fs).reactors e ↔
      account ∈ m.reactors e ∨ ∃ f ∈ fs, Adds e account f := by
  induction fs generalizing m with
  | nil => simp
  | cons f fs ih =>
    rw [applyAll_cons, ih fun g hg => h g (mem_cons_of_mem f hg)]
    by_cases ha : Adds e account f
    · exact iff_of_true (.inl (mem_reactors_of_adds ha m)) (.inr ⟨f, mem_cons_self, ha⟩)
    · rw [mem_reactors_of_neither ha (h f mem_cons_self)]
      simp [ha]

/-- If it is never added, it is there at the end if it was and was not removed. -/
theorem mem_reactors_applyAll_of_no_add {fs : List MutationFact}
    (h : ∀ f ∈ fs, ¬ Adds e account f) (m : ChatMessage) :
    account ∈ (applyAll m fs).reactors e ↔
      account ∈ m.reactors e ∧ ∀ f ∈ fs, ¬ Removes e account f := by
  induction fs generalizing m with
  | nil => simp
  | cons f fs ih =>
    rw [applyAll_cons, ih fun g hg => h g (mem_cons_of_mem f hg)]
    by_cases hr : Removes e account f
    · refine iff_of_false (fun hm => not_mem_reactors_of_removes hr m hm.1) fun hm => ?_
      exact hm.2 f mem_cons_self hr
    · rw [mem_reactors_of_neither (h f mem_cons_self) hr]
      simp [hr]

/-- The reactions of a harmonious set do not depend on the order. -/
theorem Harmonious.reactors_eq {fs gs hs : List MutationFact} (h : Harmonious fs)
    (hg : SameFacts gs fs) (hh : SameFacts hs fs) (m : ChatMessage) :
    account ∈ (applyAll m gs).reactors e ↔ account ∈ (applyAll m hs).reactors e := by
  by_cases hadd : ∃ f ∈ fs, Adds e account f
  · -- then nothing removes it
    have hno : ∀ f ∈ fs, ¬ Removes e account f := by
      rintro f hf ⟨t, e₂, rfl, he₂, ht⟩
      obtain ⟨g, hg', s, e₁, rfl, he₁, hs'⟩ := hadd
      exact h.reactions s t e₁ e₂ hg' hf (hs'.trans ht.symm) (he₁.trans he₂.symm)
    have hin : ∀ {ks : List MutationFact}, SameFacts ks fs →
        account ∈ (applyAll m ks).reactors e := by
      intro ks hks
      obtain ⟨f, hf, hadds⟩ := hadd
      rw [mem_reactors_applyAll_of_no_remove fun g hg => hno g ((hks g).1 hg)]
      exact .inr ⟨f, (hks f).2 hf, hadds⟩
    exact iff_of_true (hin hg) (hin hh)
  · have hno : ∀ {ks : List MutationFact}, SameFacts ks fs → ∀ f ∈ ks, ¬ Adds e account f :=
      fun hks f hf ha => hadd ⟨f, (hks f).1 hf, ha⟩
    rw [mem_reactors_applyAll_of_no_add (hno hg), mem_reactors_applyAll_of_no_add (hno hh)]
    have hsame : (∀ f ∈ gs, ¬ Removes e account f) ↔ ∀ f ∈ hs, ¬ Removes e account f := by
      constructor
      · intro hall f hf
        exact hall f ((hg f).2 ((hh f).1 hf))
      · intro hall f hf
        exact hall f ((hh f).2 ((hg f).1 hf))
    rw [hsame]

end Reactions

/-! ## Text, edits and tombstones -/

section Body

variable {m : ChatMessage} {fs : List MutationFact}

/-- After a tombstone nothing but the reactions changes. -/
theorem applyAll_tombstoned {a : Int} (ha : m.tombstonedAtMs = some a) (hpos : 0 < a)
    (fs : List MutationFact) :
    ∃ reactions, applyAll m fs = { m with reactions := reactions } := by
  induction fs generalizing m with
  | nil => exact ⟨m.reactions, rfl⟩
  | cons f fs ih =>
    obtain ⟨reactions, hf⟩ := apply_tombstoned (f := f) ha hpos
    rw [applyAll_cons, hf]
    obtain ⟨reactions', hfs⟩ := ih (m := { m with reactions := reactions }) ha
    exact ⟨reactions', hfs⟩

/-- What a list of mutations with a tombstone and without an edit makes of a message. -/
theorem applyAll_of_tombstone {a : Int} (hm : m.tombstonedAtMs = none)
    (hauth : ∀ f ∈ fs, Authorized m f) (hno : ∀ t x b, ⟨t, .edit x b⟩ ∉ fs)
    (hat : ∀ t b, ⟨t, .tombstone b⟩ ∈ fs → b = a) (hsome : ∃ s, ⟨s, .tombstone a⟩ ∈ fs) :
    ∃ reactions, applyAll m fs = { m with
      text := "", payload := none, tombstonedAtMs := some a, reactions := reactions } := by
  induction fs generalizing m with
  | nil => exact absurd hsome.choose_spec not_mem_nil
  | cons f fs ih =>
    obtain ⟨s, ch⟩ := f
    cases ch with
    | edit x b => exact absurd mem_cons_self (hno s x b)
    | tombstone b =>
      have hba : b = a := hat s b mem_cons_self
      have hf := hauth _ mem_cons_self
      have hpos : 0 < b := hf.2
      rw [applyAll_cons, apply_tombstone hf hm, hba]
      obtain ⟨reactions, hrest⟩ := applyAll_tombstoned
        (m := { m with text := "", payload := none, tombstonedAtMs := some a }) rfl (hba ▸ hpos) fs
      exact ⟨reactions, hrest⟩
    | reaction e op =>
      obtain ⟨reactions, hr⟩ := apply_reaction (m := m) s e op
      rw [applyAll_cons, hr]
      obtain ⟨t, ht⟩ := hsome
      have htail : ⟨t, .tombstone a⟩ ∈ fs := (mem_cons.1 ht).resolve_left (by simp)
      obtain ⟨reactions', hrest⟩ := ih (m := { m with reactions := reactions }) hm
        (fun g hg => hauth g (mem_cons_of_mem _ hg))
        (fun t x b hmem => hno t x b (mem_cons_of_mem _ hmem))
        (fun t b hmem => hat t b (mem_cons_of_mem _ hmem)) ⟨t, htail⟩
      exact ⟨reactions', hrest⟩

/-- What a list of mutations without a tombstone makes of an original: nothing, if there is
no edit in it, and otherwise the text of one of the latest. -/
theorem applyAll_of_edits (fs : List MutationFact) (hm : Original m) (hauth : ∀ f ∈ fs, Authorized m f)
    (hno : ∀ t b, ⟨t, .tombstone b⟩ ∉ fs) :
    (∃ reactions, (∀ t x b, ⟨t, .edit x b⟩ ∉ fs) ∧ applyAll m fs = { m with reactions := reactions }) ∨
    ∃ reactions s x a, ⟨s, .edit x a⟩ ∈ fs ∧ (∀ t y b, ⟨t, .edit y b⟩ ∈ fs → b ≤ a) ∧
      applyAll m fs = { m with
        text := x
        payload := m.payload.map fun p => { p with text := some x }
        editedAtMs := some a
        reactions := reactions } := by
  induction fs using reverseRecOn with
  | nil => exact .inl ⟨m.reactions, fun _ _ _ h => absurd h not_mem_nil, rfl⟩
  | append_singleton fs f ih =>
    have hauth' : ∀ g ∈ fs, Authorized m g := fun g hg => hauth g (mem_append_left _ hg)
    have hauthf : Authorized m f := hauth f (mem_append_right _ (mem_singleton_self f))
    have ih := ih hauth' fun t b hmem => hno t b (mem_append_left _ hmem)
    have hcur : Authorized (applyAll m fs) f :=
      (authorized_congr (alike_applyAll m fs)).2 hauthf
    obtain ⟨s, ch⟩ := f
    rw [applyAll_concat]
    cases ch with
    | tombstone b => exact absurd (mem_append_right _ (mem_singleton_self _)) (hno s b)
    | reaction e op =>
      obtain ⟨reactions, hr⟩ := apply_reaction (m := applyAll m fs) s e op
      rw [hr]
      have hmem : ∀ t x b, (⟨t, .edit x b⟩ : MutationFact) ∈ fs ++ [⟨s, .reaction e op⟩] ↔
          (⟨t, .edit x b⟩ : MutationFact) ∈ fs := fun t x b => by simp
      rcases ih with ⟨_, hnone, heq⟩ | ⟨_, u, x, a, hin, hmax, heq⟩
      · exact .inl ⟨reactions, fun t x b h => hnone t x b ((hmem t x b).1 h), by rw [heq]⟩
      · refine .inr ⟨reactions, u, x, a, (hmem u x a).2 hin, fun t y b h => ?_, by rw [heq]⟩
        exact hmax t y b ((hmem t y b).1 h)
    | edit x a =>
      have hself : (⟨s, .edit x a⟩ : MutationFact) ∈ fs ++ [⟨s, .edit x a⟩] :=
        mem_append_right _ (mem_singleton_self _)
      have hsplit : ∀ t y b, (⟨t, .edit y b⟩ : MutationFact) ∈ fs ++ [⟨s, .edit x a⟩] →
          (⟨t, .edit y b⟩ : MutationFact) ∈ fs ∨ b = a := by
        intro t y b h
        rcases mem_append.1 h with h | h
        · exact .inl h
        · rw [mem_singleton] at h
          cases h
          exact .inr rfl
      rcases ih with ⟨reactions, hnone, heq⟩ | ⟨reactions, u, y, b, hin, hmax, heq⟩
      · -- the first edit
        rw [heq] at hcur ⊢
        refine .inr ⟨reactions, s, x, a, hself, fun t z c h => ?_, ?_⟩
        · rcases hsplit t z c h with h | rfl
          · exact absurd h (hnone t z c)
          · exact le_refl c
        · rw [apply_edit hcur hm.tombstonedAtMs]
          intro c hc
          rw [show ({ m with reactions := reactions } : ChatMessage).editedAtMs = m.editedAtMs from rfl,
            hm.editedAtMs] at hc
          exact absurd hc (by simp)
      · by_cases hab : a ≤ b
        · -- it is no later than the latest one so far
          have hpos : 0 < b := (hauth' _ hin).2
          rw [heq, apply_edit_stale rfl hpos hab]
          refine .inr ⟨reactions, u, y, b, mem_append_left _ hin, fun t z c h => ?_, rfl⟩
          rcases hsplit t z c h with h | rfl
          · exact hmax t z c h
          · exact hab
        · rw [heq] at hcur ⊢
          refine .inr ⟨reactions, s, x, a, hself, fun t z c h => ?_, ?_⟩
          · rcases hsplit t z c h with h | rfl
            · exact le_trans (hmax t z c h) (le_of_lt (not_le.1 hab))
            · exact le_refl c
          · rw [apply_edit hcur hm.tombstonedAtMs]
            · cases hp : m.payload with
              | none => rfl
              | some p => rfl
            · intro c hc
              rw [← some_inj.1 hc]
              exact not_le.1 hab

end Body

/-! ## The law -/

section Law

variable {m : ChatMessage} {fs : List MutationFact}

theorem Authorized.pos_tombstone {s : String} {a : Int} (h : Authorized m ⟨s, .tombstone a⟩) :
    0 < a := h.2

theorem Authorized.pos_edit {s x : String} {a : Int} (h : Authorized m ⟨s, .edit x a⟩) :
    0 < a := h.2

/-- A harmonious set of mutations converges. -/
theorem Harmonious.converges (h : Harmonious fs) (hm : Original m)
    (hauth : ∀ f ∈ fs, Authorized m f) : Converges m fs := by
  intro gs hs hg hh
  refine ⟨?_, fun e account => h.reactors_eq hg hh m⟩
  by_cases htomb : ∃ s a, ⟨s, .tombstone a⟩ ∈ fs
  · -- every list ends with the message taken back at the one moment
    obtain ⟨s, a, hin⟩ := htomb
    have hend : ∀ {ks : List MutationFact}, SameFacts ks fs →
        ∃ reactions, applyAll m ks = { m with
          text := "", payload := none, tombstonedAtMs := some a, reactions := reactions } := by
      intro ks hks
      refine applyAll_of_tombstone hm.tombstonedAtMs (fun f hf => hauth f ((hks f).1 hf))
        (fun t x b hmem => h.untouched s t a x b hin ((hks _).1 hmem))
        (fun t b hmem => h.tombstones t s b a ((hks _).1 hmem) hin) ⟨s, (hks _).2 hin⟩
    obtain ⟨_, hgs⟩ := hend hg
    obtain ⟨_, hhs⟩ := hend hh
    rw [hgs, hhs]
  · have hend : ∀ {ks : List MutationFact}, SameFacts ks fs → _ := fun {ks} hks =>
      applyAll_of_edits ks hm (fun f hf => hauth f ((hks f).1 hf))
        (fun t b hmem => htomb ⟨t, b, (hks _).1 hmem⟩)
    rcases hend hg with ⟨_, hnone, hgs⟩ | ⟨_, s, x, a, hin, hmax, hgs⟩
    · rcases hend hh with ⟨_, _, hhs⟩ | ⟨_, t, y, b, hin', _, hhs⟩
      · rw [hgs, hhs]
      · exact absurd ((hg _).2 ((hh _).1 hin')) (hnone t y b)
    · rcases hend hh with ⟨_, hnone, _⟩ | ⟨_, t, y, b, hin', hmax', hhs⟩
      · exact absurd ((hh _).2 ((hg _).1 hin)) (hnone s x a)
      · -- the latest moment is that of the set, and its text is one
        have hab : a = b := le_antisymm (hmax' s x a ((hh _).2 ((hg _).1 hin)))
          (hmax t y b ((hg _).2 ((hh _).1 hin')))
        have hxy : x = y := by
          refine h.edits s t x y a ((hg _).1 hin) ?_ fun u z c hmem => hmax u z c ((hg _).2 hmem)
          rw [hab]
          exact (hh _).1 hin'
        rw [hgs, hhs, hab, hxy]

/-- A mutation of the set may come first, -/
theorem sameFacts_cons {f : MutationFact} (hf : f ∈ fs) : SameFacts (f :: fs) fs := fun g => by
  rw [mem_cons]
  exact ⟨fun h => h.elim (fun h => h ▸ hf) id, .inr⟩

/-- and it may come last once more. -/
theorem sameFacts_concat {f : MutationFact} (hf : f ∈ fs) : SameFacts (fs ++ [f]) fs := fun g => by
  rw [mem_append, mem_singleton]
  exact ⟨fun h => h.elim id (fun h => h ▸ hf), .inl⟩

/-- The edited marker never goes away. -/
theorem editedAtMs_applyAll (h : m.editedAtMs ≠ none) : (applyAll m fs).editedAtMs ≠ none := by
  induction fs generalizing m with
  | nil => exact h
  | cons f fs ih =>
    rw [applyAll_cons]
    refine ih ?_
    obtain ⟨s, ch⟩ := f
    cases ch with
    | edit x a =>
      rw [MutationFact.apply, apply, verdict, editRow]
      split_ifs
      · exact h
      · exact h
      · exact h
      · exact h
      · exact some_ne_none a
    | tombstone a =>
      rw [MutationFact.apply, apply, verdict, tombstoneRow]
      split_ifs
      · exact h
      · exact h
      · exact h
      · exact h
    | reaction e op =>
      obtain ⟨reactions, hr⟩ := apply_reaction (m := m) s e op
      rw [hr]
      exact h

/-- One of the latest edits that comes first decides the text. -/
theorem applyAll_latest {s x : String} {a : Int} (hm : Original m)
    (hauth : Authorized m ⟨s, .edit x a⟩) (hno : ∀ t b, ⟨t, .tombstone b⟩ ∉ fs)
    (hmax : ∀ t y b, ⟨t, .edit y b⟩ ∈ fs → b ≤ a) :
    (applyAll m (⟨s, .edit x a⟩ :: fs)).text = x := by
  have hstays : ∀ (gs : List MutationFact) (m' : ChatMessage), (∀ f ∈ gs, f ∈ fs) →
      m'.editedAtMs = some a → (applyAll m' gs).text = m'.text := by
    intro gs
    induction gs with
    | nil => exact fun _ _ _ => rfl
    | cons f gs ih =>
      intro m' hsub ha
      have hf := hsub f mem_cons_self
      have htail : ∀ g ∈ gs, g ∈ fs := fun g hg => hsub g (mem_cons_of_mem f hg)
      rw [applyAll_cons]
      obtain ⟨t, ch⟩ := f
      cases ch with
      | edit y b =>
        rw [apply_edit_stale ha hauth.pos_edit (hmax t y b hf)]
        exact ih m' htail ha
      | tombstone b => exact absurd hf (hno t b)
      | reaction e op =>
        obtain ⟨reactions, hr⟩ := apply_reaction (m := m') t e op
        rw [hr]
        exact ih { m' with reactions := reactions } htail ha
  rw [applyAll_cons, apply_edit hauth hm.tombstonedAtMs]
  · exact hstays fs _ (fun f hf => hf) rfl
  · intro b hb
    rw [hm.editedAtMs] at hb
    exact absurd hb (by simp)

/-- **Which sets converge.** A set of authorized mutations of a message leads to one row in
every order if and only if no two of them race. -/
theorem converges_iff (hm : Original m) (hauth : ∀ f ∈ fs, Authorized m f) :
    Converges m fs ↔ Harmonious fs := by
  refine ⟨fun h => ?_, fun h => h.converges hm hauth⟩
  have hbody : ∀ {f g}, f ∈ fs → g ∈ fs →
      { applyAll m (f :: fs) with reactions := empty } =
        { applyAll m (g :: fs) with reactions := empty } := fun hf hg =>
    (h _ _ (sameFacts_cons hf) (sameFacts_cons hg)).1
  -- a tombstone that comes first is the one that stays
  have hfirst : ∀ {s a}, ⟨s, .tombstone a⟩ ∈ fs → ∃ reactions,
      applyAll m (⟨s, .tombstone a⟩ :: fs) = { m with
        text := "", payload := none, tombstonedAtMs := some a, reactions := reactions } := by
    intro s a hin
    have hf := hauth _ hin
    rw [applyAll_cons, apply_tombstone hf hm.tombstonedAtMs]
    exact applyAll_tombstoned (m := { m with text := "", payload := none, tombstonedAtMs := some a })
      rfl hf.pos_tombstone fs
  have huntouched : ∀ s t a x b, ⟨s, .tombstone a⟩ ∈ fs → ⟨t, .edit x b⟩ ∉ fs := by
    intro s t a x b hs ht
    have heq := congrArg editedAtMs (hbody ht hs)
    obtain ⟨_, hend⟩ := hfirst hs
    -- the edit leaves its mark if it comes first, and none if the tombstone does
    have hmark : (applyAll m (⟨t, .edit x b⟩ :: fs)).editedAtMs ≠ none := by
      rw [applyAll_cons]
      refine editedAtMs_applyAll ?_
      rw [apply_edit (hauth _ ht) hm.tombstonedAtMs]
      · exact some_ne_none b
      · intro c hc
        rw [hm.editedAtMs] at hc
        exact absurd hc (by simp)
    rw [hend] at heq
    exact hmark (heq.trans hm.editedAtMs)
  constructor
  · intro s t a b hs ht
    have heq := congrArg tombstonedAtMs (hbody hs ht)
    obtain ⟨_, hends⟩ := hfirst hs
    obtain ⟨_, hendt⟩ := hfirst ht
    rw [hends, hendt] at heq
    exact some_inj.1 heq
  · exact huntouched
  · intro s t x y a hs ht hmax
    have hno : ∀ u b, ⟨u, .tombstone b⟩ ∉ fs := fun u b hu => huntouched u s b x a hu hs
    have heq := congrArg text (hbody hs ht)
    have hx := applyAll_latest hm (hauth _ hs) hno hmax
    have hy := applyAll_latest hm (hauth _ ht) hno hmax
    exact hx.symm.trans (heq.trans hy)
  · intro s t e e' hs ht hst hee
    -- whichever comes last decides
    have hadds : Adds (trim e) (trim s) ⟨s, .reaction e .add⟩ := ⟨s, e, rfl, rfl, rfl⟩
    have hremoves : Removes (trim e) (trim s) ⟨t, .reaction e' .remove⟩ :=
      ⟨t, e', rfl, hee.symm, hst.symm⟩
    have hiff := (h _ _ (sameFacts_concat hs) (sameFacts_concat ht)).2 (trim e) (trim s)
    rw [applyAll_concat, applyAll_concat] at hiff
    exact not_mem_reactors_of_removes hremoves _ (hiff.1 (mem_reactors_of_adds hadds _))

end Law

/-! ## The calls of the store -/

section Calls

variable {c : Collation}

/-- The mutation that a call carries. -/
def PendingMutation.fact (mu : PendingMutation) : MutationFact := ⟨mu.senderAccountId, mu.change⟩

/-- The store after calls that may buffer. -/
def Store.applyCalls (s : Store c) (mus : List PendingMutation) : Store c :=
  mus.foldl (fun s mu => (s.applyMutation mu true).1) s

theorem Store.applyCalls_cons (s : Store c) (mu : PendingMutation) (mus : List PendingMutation) :
    s.applyCalls (mu :: mus) = Store.applyCalls (s.applyMutation mu true).1 mus := rfl

theorem Store.applyCalls_append (s : Store c) (mus nus : List PendingMutation) :
    s.applyCalls (mus ++ nus) = Store.applyCalls (s.applyCalls mus) nus := foldl_append

/-- The calls with these mutations, in whatever order and number, all end with the same
row. -/
def Store.ProjectsOneRow (s : Store c) (threadId messageId : String) (fs : List MutationFact) :
    Prop :=
  ∀ gs hs : List PendingMutation, (∀ mu ∈ gs, mu.Targets threadId messageId) →
    (∀ mu ∈ hs, mu.Targets threadId messageId) →
    SameFacts (gs.map PendingMutation.fact) fs → SameFacts (hs.map PendingMutation.fact) fs →
    ∃ m₁ m₂, (s.applyCalls gs).row? (trim threadId) (trim messageId) = some m₁ ∧
      (s.applyCalls hs).row? (trim threadId) (trim messageId) = some m₂ ∧ SameRow m₁ m₂

variable {s : Store c} {threadId messageId : String} {m : ChatMessage}

/-- An authorized mutation is well formed. -/
theorem settle_of_authorized {mu : PendingMutation} (h : Authorized m mu.fact) :
    mu.settle m = mu.fact.apply m := by
  have hmal : mu.malformed = false := by
    obtain ⟨t, i, sender, ch, at_, fp⟩ := mu
    cases ch with
    | edit x a => rfl
    | tombstone a => rfl
    | reaction e op =>
      refine decide_eq_false fun hor => ?_
      exact hor.elim h.1 h.2
  rw [PendingMutation.settle, hmal, if_neg Bool.false_ne_true]
  rfl

/-- The calls make of the row what their mutations make of it. -/
theorem row?_applyCalls (ht : trim threadId ≠ "") (hi : trim messageId ≠ "")
    (mus : List PendingMutation) (hmus : ∀ mu ∈ mus, mu.Targets threadId messageId)
    (hrow : s.row? (trim threadId) (trim messageId) = some m)
    (hauth : ∀ mu ∈ mus, Authorized m mu.fact) :
    (s.applyCalls mus).row? (trim threadId) (trim messageId) =
      some (applyAll m (mus.map PendingMutation.fact)) := by
  induction mus generalizing s m with
  | nil => exact hrow
  | cons mu mus ih =>
    obtain ⟨hthread, htarget⟩ := hmus mu mem_cons_self
    have hfact := hauth mu mem_cons_self
    refine ih (fun nu hnu => hmus nu (mem_cons_of_mem mu hnu)) ?_ fun nu hnu => ?_
    · rw [Store.row?_applyMutation (hthread ▸ ht) (htarget ▸ hi), hthread, htarget,
        if_pos ⟨rfl, rfl⟩, hrow, map_some, settle_of_authorized hfact]
    · have halike : Alike m (mu.fact.apply m) := alike_apply _ _ m
      exact (authorized_congr halike).2 (hauth nu (mem_cons_of_mem mu hnu))

end Calls

/-! ### A message of Alice -/

/-- The thread of the owner with Alice, and one message of hers in it. -/
def aliceStore : Store Collation.byCodePoint :=
  (Store.upsertDepositedMessage 1 ⟨"m1", "t1", "alice", "", 1, "alice", none, "hello", none⟩
    { Store.empty with threads := empty.set "t1" ⟨.direct, "alice", "inbox", 1, 1⟩ }).1

def aliceRow : ChatMessage :=
  Deposit.row ⟨"m1", "t1", "alice", "", 1, "alice", none, "hello", none⟩ "m1"

/-- The calls of a list of mutations of that message. -/
def aliceCalls (fs : List MutationFact) : List PendingMutation :=
  fs.map fun f => ⟨"t1", "m1", f.senderAccountId, f.change, 2, ""⟩

end RezChat.Messages
