/-
A change of password, with failures and crashes at every await
(`changePassword` of `ui/services/auth/AccountAuthService.js`).

The two envelopes of a slot are written one after the other, and `unlock` opens a slot only if both
open with one password. Between the two writes neither the old password nor the new one is of any
use. A failure of the second write is answered by a third, which puts the first envelope back; but a
write that fails may have taken effect, the third may fail too, and the process may die in between
(`split_by_crash`). And when both are written the page is locked, which may fail as well: then the
call throws although the new password is in force.

What has to become of the awaits for the account to stay open is said in `Spared`, and it is exact
(`changePassword_spared_iff`).
-/
import RezChat.Browser.Passwords

set_option autoImplicit false

namespace RezChat.Browser

open Inbox (trim)
open Contacts (utf16Length)
open Option Proc RezChat.Task World Sealed

/-! ## A slot whose envelopes may differ -/

/-- The account lies in the slot under one password, and its recovery phrase under another. -/
structure Holds (sdk : Sdk) (w : World) (slot p₁ p₂ mnemonic : String) (a : Account) : Prop where
  main : w.storage (keystoreKey slot) = some (.keystore ⟨p₁, a⟩)
  recovery : w.storage (recoveryKey slot) = some (.phrase ⟨p₂, mnemonic⟩)
  same : ∃ id, sdk.accountIdOf mnemonic = some id ∧ id.1 = a.accountId

/-- Whatever the page shows, unlocking the slot with this string gets to the account. -/
def OpensTo (sdk : Sdk) (storage : String → Option Value) (slot q : String) (a : Account) : Prop :=
  ∀ (w : World) (uid : Option String), w.storage = storage → unlockSlot uid w.session = slot →
    ∃ r s, Yields (exec (unlock sdk uid q)) w r s ∧ s.account = some a

section Slot

variable {sdk : Sdk} {w : World} {slot p₁ p₂ q mnemonic : String} {a : Account}

section

variable (h : Holds sdk w slot p₁ p₂ mnemonic a)
include h

theorem Holds.envelope_main :
    w.envelope (keystoreKey slot) = some (.keystore ⟨p₁, a⟩) := by
  unfold envelope
  rw [h.main]
  rfl

theorem Holds.envelope_recovery :
    w.envelope (recoveryKey slot) = some (.phrase ⟨p₂, mnemonic⟩) := by
  unfold envelope
  rw [h.recovery]
  rfl

/-- **A slot is open** to a string if both its envelopes are sealed under what the string is
trimmed. -/
theorem Holds.unlocksTo_iff (hp : p₁ ≠ "") :
    UnlocksTo sdk w slot q a ↔ trim q = p₁ ∧ p₁ = p₂ := by
  constructor
  · intro hopen
    have hkey : trim q = p₁ := by
      by_contra hne
      exact openAccount_refused h.envelope_main hne a hopen.main
    obtain ⟨mnemonic', id, hphrase, -⟩ := hopen.recovery _ h.envelope_recovery
    exact ⟨hkey, hkey.symm.trans (opened_eq_some_iff.1 hphrase).1⟩
  · rintro ⟨rfl, rfl⟩
    refine ⟨hp, ?_, ?_⟩
    · rw [h.envelope_main, bind_some, Value.openAccount, opened_mk]
    · intro v hv
      obtain rfl := some_inj.1 (h.envelope_recovery.symm.trans hv)
      obtain ⟨id, hid, heq⟩ := h.same
      exact ⟨mnemonic, id, opened_mk _ _, hid, heq⟩

end

/-- A page that has the slot selected. -/
def World.selecting (w : World) (slot : String) : World :=
  w.onSession fun s => { s with selectedAccountId := some slot }

theorem unlockSlot_selecting (hslot : slot ≠ "") :
    unlockSlot none (w.selecting slot).session = slot := by
  have hfilter : (some slot).filter (· ≠ "") = some slot := by
    rw [filter_some, if_pos (decide_eq_true hslot)]
  have hselected : (w.selecting slot).session.selectedAccountId = some slot := rfl
  unfold unlockSlot
  dsimp only [filter_none]
  rw [hselected, hfilter]

theorem opensTo_iff (hslot : slot ≠ "") :
    OpensTo sdk w.storage slot q a ↔ UnlocksTo sdk w slot q a := by
  constructor
  · intro h
    obtain ⟨r, s, hyields, haccount⟩ := h (w.selecting slot) none rfl (unlockSlot_selecting hslot)
    have hspec := wp_returned (@unlock_spec sdk none q (w.selecting slot))
      (congrArg Ending.outcome hyields)
    obtain ⟨b, hb, hkept⟩ := hspec
    rw [hyields, haccount, some_inj] at hkept
    rw [unlockSlot_selecting hslot, ← hkept] at hb
    exact ⟨hb.nonblank, hb.main, hb.recovery⟩
  · intro h w' uid hstorage huid
    have h' : UnlocksTo sdk w' (unlockSlot uid w'.session) q a := by
      rw [huid]
      refine ⟨h.nonblank, ?_, ?_⟩
      · rw [envelope, hstorage]
        exact h.main
      · rw [envelope, hstorage]
        exact h.recovery
    obtain ⟨r, s, hyields⟩ := unlock_succeeds h'
    obtain ⟨b, hb, hkept⟩ := wp_returned (@unlock_spec sdk uid q w')
      (congrArg Ending.outcome hyields)
    rw [hyields] at hkept
    refine ⟨r, s, hyields, hkept.trans ?_⟩
    rw [← hb.main, h'.main]

/-- What is left of a run, from the passwords its envelopes are sealed under. -/
theorem Holds.opensTo_iff (h : Holds sdk w slot p₁ p₂ mnemonic a) (hslot : slot ≠ "")
    (hp : p₁ ≠ "") : OpensTo sdk w.storage slot q a ↔ trim q = p₁ ∧ p₁ = p₂ :=
  (Browser.opensTo_iff hslot).trans (h.unlocksTo_iff hp)

end Slot

/-! ## The law -/

/-- **The law.** However the call ended, the account is unlocked with the old password or with the
new one: with the new one if the call returned, and with the old one if it threw. -/
structure NotLockedOut (sdk : Sdk) (slot old new : String) (a : Account)
    (e : Ending World String) : Prop where
  opens : OpensTo sdk e.state.storage slot old a ∨ OpensTo sdk e.state.storage slot new a
  returned : ∀ x, e.outcome = .returned x → OpensTo sdk e.state.storage slot new a
  threw : e.outcome = .threw → OpensTo sdk e.state.storage slot old a

/-- The same, said of the three ways a run may end. -/
theorem notLockedOut_iff {sdk : Sdk} {slot old new : String} {a : Account} {p : Proc World String}
    {fates : List Fate} {w : World} : NotLockedOut sdk slot old new a (p fates w) ↔
      Ends p (fun _ _ s => OpensTo sdk s.storage slot new a)
        (fun _ s => OpensTo sdk s.storage slot old a)
        (fun _ s => OpensTo sdk s.storage slot old a ∨ OpensTo sdk s.storage slot new a)
        fates w := by
  unfold Ends
  generalize p fates w = e
  obtain ⟨x | _ | _, s, fates'⟩ := e
  · exact ⟨fun h => h.returned x rfl, fun h => ⟨Or.inr h, fun _ _ => h, nofun⟩⟩
  · exact ⟨fun h => h.threw rfl, fun h => ⟨Or.inl h, nofun, fun _ => h⟩⟩
  · exact ⟨fun h => h.opens, fun h => ⟨h, nofun, nofun⟩⟩

/-! ## What the awaits must come to

The statements below follow the awaits of the call in order. Each is of the fates that are left, and
says that the call, from there on, ends as the law asks. -/

/-- Locking the page waits twice, unless there is no keystore: `A` if it gets through, `B` if it
throws, and `C` if the process dies. -/
def LogoutEnds (A B C : Prop) (status : SessionStatus) (fates : List Fate) : Prop :=
  if status = .noKeystore then A
  else Next (Next (fun _ => A) (fun _ => B) (fun _ => B) fun _ => C) (fun _ => B)
    (fun _ => B) (fun _ => C) fates

theorem logoutEnds_congr {A B C A' B' C' : Prop} (hA : A ↔ A') (hB : B ↔ B') (hC : C ↔ C')
    (status : SessionStatus) (fates : List Fate) :
    LogoutEnds A B C status fates ↔ LogoutEnds A' B' C' status fates := by
  rw [propext hA, propext hB, propext hC]

/-- Both envelopes are written, and the page is to be locked. -/
def SparedAfterBoth (old new : String) (status : SessionStatus) : List Fate → Prop :=
  LogoutEnds (trim new = new) (trim old = new) (trim old = new ∨ trim new = new) status

/-- The second write failed and was not stored: the first is to be taken back, even if that is
reported as a failure. -/
def SparedRollback (old : String) : List Fate → Prop :=
  Next (fun _ => trim old = old) (fun _ => False) (fun _ => trim old = old) fun _ => False

/-- The second write was stored and reported as a failure: the first must not be taken back, and the
call throws with the new password in force. -/
def SparedNoRollback (old new : String) : List Fate → Prop :=
  Next (fun _ => False) (fun _ => trim old = new) (fun _ => False)
    fun _ => trim old = new ∨ trim new = new

/-- The first write is stored and reported as such, or is not stored; then the same of the second,
with the first taken back. -/
def SparedWrites (old new : String) (status : SessionStatus) : List Fate → Prop :=
  Next
    (Next (SparedAfterBoth old new status) (SparedRollback old) (SparedNoRollback old new)
      fun _ => False)
    (fun _ => trim old = old) (fun _ => False) fun _ => trim old = old ∨ trim new = old

/-- A number of awaits that write nothing. -/
def Untouched (old new : String) (rest : List Fate → Prop) : Nat → List Fate → Prop
  | 0 => rest
  | n + 1 => Next (Untouched old new rest n) (fun _ => trim old = old) (fun _ => trim old = old)
      fun _ => trim old = old ∨ trim new = old

/-- **What has to become of the awaits.** A call that is refused, or given a wrong password, throws
before it writes; six awaits come before the writes. -/
def Spared (old given new : String) (status : SessionStatus) : List Fate → Prop :=
  if given = "" ∨ utf16Length new < 8 ∨ given = new then fun _ => trim old = old
  else if given = old then Untouched old new (SparedWrites old new status) 6
  else Untouched old new (fun _ => trim old = old) 4

/-! ## The writes -/

section Writes

variable {sdk : Sdk} {w : World} {slot p₁ p₂ mnemonic : String} {a : Account}

theorem Holds.put_recovery (h : Holds sdk w slot p₁ p₂ mnemonic a) (p : String) :
    Holds sdk (w.put (recoveryKey slot) (.phrase ⟨p, mnemonic⟩)) slot p₁ p mnemonic a := by
  refine ⟨?_, ?_, h.same⟩
  · rw [put_storage, if_neg (recoveryKey_ne_keystoreKey slot).symm]
    exact h.main
  · rw [put_storage, if_pos rfl]

theorem Holds.put_main (h : Holds sdk w slot p₁ p₂ mnemonic a) (p : String) :
    Holds sdk (w.put (keystoreKey slot) (.keystore ⟨p, a⟩)) slot p p₂ mnemonic a := by
  refine ⟨?_, ?_, h.same⟩
  · rw [put_storage, if_pos rfl]
  · rw [put_storage, if_neg (recoveryKey_ne_keystoreKey slot)]
    exact h.recovery

/-- Locking the page leaves the storage alone, so that what is left of the call is said before it. -/
theorem ends_logout {P Q S : (String → Option Value) → Prop} (fates : List Fate) (w : World) :
    Ends (exec logout) (fun _ _ s => P s.storage) (fun _ s => Q s.storage)
      (fun _ s => S s.storage) fates w ↔
      LogoutEnds (P w.storage) (Q w.storage) (S w.storage) w.session.status fates := by
  unfold logout LogoutEnds
  rw [ends_got]
  by_cases hstatus : w.session.status = .noKeystore
  · rw [if_pos hstatus, if_pos hstatus]
    exact .rfl
  · rw [if_neg hstatus, if_neg hstatus]
    refine ends_modified.trans (ends_awaited.trans ?_)
    refine next_congr (fun f => ?_) (fun _ => .rfl) (fun _ => .rfl) (fun _ => .rfl) fates
    refine ends_called.trans (ends_awaited.trans ?_)
    refine next_congr (fun f => ?_) (fun _ => .rfl) (fun _ => .rfl) (fun _ => .rfl) f
    refine ends_modified.trans ?_
    dsimp only
    split
    · exact .rfl
    · exact .rfl

section Change

variable {P Q S : (String → Option Value) → Prop} {R : String → Moment World}
  {accountId : Option String} {old given new : String} {fates : List Fate}

/-- What is left of the call when both envelopes are written. -/
def lockAfter : Task World String := do
  let w ← get
  called logout
  pure ((w.account.map Account.accountId).getD "")

theorem changePassword_eq : changePassword accountId given new =
    (reseal accountId given new >>= fun r => rewrite r >>= fun _ => lockAfter) := rfl

theorem ends_lockAfter : Ends (exec lockAfter) (fun _ _ s => P s.storage)
    (fun _ s => Q s.storage) (fun _ s => S s.storage) fates w ↔
    LogoutEnds (P w.storage) (Q w.storage) (S w.storage) w.session.status fates := by
  unfold lockAfter
  refine ends_got.trans (ends_called.trans ?_)
  rw [exec_bind, ends_bind]
  exact ends_logout fates w

/-- The first envelope is put back, and the call throws. -/
theorem ends_rollback {E D : Moment World} {R : Unit → Moment World} {r : Resealed}
    {v : Value} (hr : r.recovery = some v) :
    Ends (exec (rollback r >>= fun _ => failed)) R E D fates w ↔
      Next (fun f => E f (w.put (recoveryKey r.storeKey) v)) (fun f => E f w)
        (fun f => E f (w.put (recoveryKey r.storeKey) v)) (fun f => D f w) fates := by
  unfold rollback
  rw [hr, exec_bind, ends_bind, exec_tryCatch, ends_tryCatch]
  show Ends (exec (await _)) _ _ _ fates w ↔ _
  rw [exec_await, ends_await]
  exact .rfl

/-- What is written of a slot that is sealed under one password. -/
def resealedOf (slot old new mnemonic : String) (a : Account) : Resealed :=
  ⟨slot, some (.phrase ⟨old, mnemonic⟩), .phrase ⟨new, mnemonic⟩, .keystore ⟨new, a⟩⟩

/-- The awaits before the writes. What is left of the call is said where it comes to them. -/
theorem ends_reseal {R : Resealed → Moment World}
    (hold : Holds sdk w slot old old mnemonic a)
    (hslot : resolveStoreKey accountId w.session = slot)
    (hE : Q w.storage ↔ trim old = old)
    (hD : S w.storage ↔ (trim old = old ∨ trim new = old)) {rest : List Fate → Prop}
    (hR : 8 ≤ utf16Length new → old ≠ new →
      ∀ f, R (resealedOf slot old new mnemonic a) f w ↔ rest f) :
    Ends (exec (reseal accountId given new)) R (fun _ s => Q s.storage)
      (fun _ s => S s.storage) fates w ↔
      (if given = "" ∨ utf16Length new < 8 ∨ given = new then fun _ => trim old = old
        else if given = old then Untouched old new rest 6
        else Untouched old new (fun _ => trim old = old) 4) fates := by
  unfold reseal
  by_cases hcheck : given = "" ∨ utf16Length new < 8 ∨ given = new
  · rw [if_pos hcheck, if_pos hcheck]
    exact hE
  · rw [if_neg hcheck, if_neg hcheck]
    simp only [not_or, not_lt] at hcheck
    have next : ∀ {ok ok' : List Fate → Prop} (_ : ∀ f, ok f ↔ ok' f) (f : List Fate),
        Next ok (fun _ => Q w.storage) (fun _ => Q w.storage) (fun _ => S w.storage) f ↔
          Next ok' (fun _ => trim old = old) (fun _ => trim old = old)
            (fun _ => trim old = old ∨ trim new = old) f := fun hok f =>
      next_congr hok (fun _ => hE) (fun _ => hE) (fun _ => hD) f
    refine ends_got.trans (ends_awaited.trans ?_)
    dsimp only
    rw [hslot, hold.envelope_recovery, isSome_some, if_neg (by decide)]
    by_cases hgiven : given = old
    · subst hgiven
      rw [if_pos rfl]
      refine next (fun f => ends_awaited.trans ?_) fates
      dsimp only
      rw [hold.envelope_main]
      refine next (fun f => ends_awaited.trans ?_) f
      dsimp only
      rw [hold.envelope_recovery, bind_some, Value.openMnemonic, opened_mk]
      refine next (fun f => ends_computed.trans ?_) f
      dsimp only
      rw [bind_some, Value.openAccount, opened_mk]
      refine next (fun f => ends_computed.trans ?_) f
      refine next (fun f => ends_computed.trans ?_) f
      refine next (fun f => ?_) f
      exact hR hcheck.2.1 hcheck.2.2 f
    · -- the recovery envelope does not open
      rw [if_neg hgiven]
      refine next (fun f => ends_awaited.trans ?_) fates
      dsimp only
      rw [hold.envelope_main]
      refine next (fun f => ends_awaited.trans ?_) f
      dsimp only
      rw [hold.envelope_recovery, bind_some, Value.openMnemonic,
        opened_of_ne hgiven]
      refine next (fun f => ends_computed.trans ?_) f
      exact next (fun f => hE) f

/-- The writes, and what comes after them. -/
theorem ends_rewrite (hold : Holds sdk w slot old old mnemonic a) (hslot : slot ≠ "")
    (hnonblank : old ≠ "") (hne : old ≠ new) (hnew : new ≠ "") :
    Ends (exec (rewrite (resealedOf slot old new mnemonic a) >>= fun _ => lockAfter))
      (fun _ _ s => OpensTo sdk s.storage slot new a) (fun _ s => OpensTo sdk s.storage slot old a)
      (fun _ s => OpensTo sdk s.storage slot old a ∨ OpensTo sdk s.storage slot new a) fates w ↔
      SparedWrites old new w.session.status fates := by
  have hfirst := hold.put_recovery new
  have hboth := hfirst.put_main new
  have hback := hfirst.put_recovery old
  have hlost := hboth.put_recovery old
  -- what each string opens, of what the writes may leave
  have opens_hold : ∀ q, OpensTo sdk w.storage slot q a ↔ trim q = old := fun q =>
    (hold.opensTo_iff hslot hnonblank).trans (and_iff_left rfl)
  have opens_back : ∀ q, OpensTo sdk _ slot q a ↔ trim q = old := fun q =>
    (hback.opensTo_iff hslot hnonblank).trans (and_iff_left rfl)
  have opens_both : ∀ q, OpensTo sdk _ slot q a ↔ trim q = new := fun q =>
    (hboth.opensTo_iff hslot hnew).trans (and_iff_left rfl)
  have opens_first : ∀ q, OpensTo sdk _ slot q a ↔ False := fun q =>
    (hfirst.opensTo_iff hslot hnonblank).trans (iff_false_intro fun h => hne h.2)
  have opens_lost : ∀ q, OpensTo sdk _ slot q a ↔ False := fun q =>
    (hlost.opensTo_iff hslot hnew).trans (iff_false_intro fun h => hne h.2.symm)
  rw [exec_bind, ends_bind]
  refine ends_awaited.trans (next_congr (fun f => ?_) (fun _ => opens_hold old)
    (fun _ => opens_first old) (fun _ => or_congr (opens_hold old) (opens_hold new)) fates)
  rw [exec_tryCatch, ends_tryCatch]
  show Ends (exec (await _)) _ _ _ f _ ↔ _
  rw [exec_await, ends_await]
  refine next_congr (fun f => ?_) (fun f => ?_) (fun f => ?_) (fun _ => ?_) f
  · -- both are written
    refine (ends_lockAfter (P := fun storage => OpensTo sdk storage slot new a)
      (Q := fun storage => OpensTo sdk storage slot old a)
      (S := fun storage => OpensTo sdk storage slot old a ∨ OpensTo sdk storage slot new a)).trans ?_
    exact logoutEnds_congr (opens_both new) (opens_both old)
      (or_congr (opens_both old) (opens_both new)) _ f
  · -- the second is not
    refine (ends_rollback rfl).trans (next_congr (fun _ => opens_back old)
      (fun _ => opens_first old) (fun _ => opens_back old) (fun _ => ?_) f)
    exact (or_congr (opens_first old) (opens_first new)).trans (iff_of_eq (or_false _))
  · -- the second is, and it is not known
    refine (ends_rollback rfl).trans (next_congr (fun _ => opens_lost old)
      (fun _ => opens_both old) (fun _ => opens_lost old) (fun _ => ?_) f)
    exact or_congr (opens_both old) (opens_both new)
  · exact (or_congr (opens_first old) (opens_first new)).trans (iff_of_eq (or_false _))

end Change

end Writes

theorem resolveStoreKey_ne_empty (accountId : Option String) (s : SessionStore) :
    resolveStoreKey accountId s ≠ "" := by
  unfold resolveStoreKey
  dsimp only
  split
  · split
    · assumption
    · split
      · assumption
      · split
        · assumption
        · decide
  · split
    · assumption
    · split
      · assumption
      · decide

/-- **Nobody is locked out** exactly where the awaits come to what they have to. -/
theorem changePassword_spared_iff (sdk : Sdk) (w : World) (accountId : Option String)
    (old given new mnemonic : String) (a : Account) (hnonblank : old ≠ "")
    (hold : Holds sdk w (resolveStoreKey accountId w.session) old old mnemonic a)
    (fates : List Fate) :
    NotLockedOut sdk (resolveStoreKey accountId w.session) old new a
        (Task.exec (changePassword accountId given new) fates w) ↔
      Spared old given new w.session.status fates := by
  have hslot := resolveStoreKey_ne_empty accountId w.session
  have opens_hold : ∀ q, OpensTo sdk w.storage (resolveStoreKey accountId w.session) q a ↔
      trim q = old := fun q => (hold.opensTo_iff hslot hnonblank).trans (and_iff_left rfl)
  rw [notLockedOut_iff, changePassword_eq, exec_bind, ends_bind]
  unfold Spared
  refine ends_reseal (Q := fun storage => OpensTo sdk storage _ old a)
    (S := fun storage => OpensTo sdk storage _ old a ∨ OpensTo sdk storage _ new a) hold rfl
    (opens_hold old) (or_congr (opens_hold old) (opens_hold new)) fun hlength hne f => ?_
  refine ends_rewrite hold hslot hnonblank hne ?_
  rintro rfl
  exact absurd hlength (by decide)

/-! ## A crash between the two writes -/

theorem annWorld_holds : Holds annSdk annWorld (resolveStoreKey none annWorld.session) "password0"
    "password0" "ann phrase" annAccount where
  main := by decide
  recovery := by decide
  same := ⟨⟨"rez:acct:ann", by decide⟩, by decide, rfl⟩

/-- The tab is closed when the first of the two envelopes is written and the second is not. -/
def betweenWrites : List Fate := [.ok, .ok, .ok, .ok, .ok, .ok, .ok, .dies]

/-- Neither the old password nor the new one gets Ann to her account any more. -/
theorem split_by_crash :
    Holds annSdk annWorld (resolveStoreKey none annWorld.session) "password0" "password0"
      "ann phrase" annAccount ∧
    ¬NotLockedOut annSdk (resolveStoreKey none annWorld.session) "password0" "password1" annAccount
      (Task.exec (changePassword none "password0" "password1") betweenWrites annWorld) := by
  refine ⟨annWorld_holds, fun h => ?_⟩
  rcases h.opens with hold | hnew
  · obtain ⟨r, s, hyields, -⟩ := hold _ none rfl (by decide)
    have hthrew : (Task.exec (unlock annSdk none "password0") []
        (Task.exec (changePassword none "password0" "password1") betweenWrites
          annWorld).state).outcome = .threw := by decide
    rw [hyields] at hthrew
    exact nomatch hthrew
  · obtain ⟨r, s, hyields, -⟩ := hnew _ none rfl (by decide)
    have hthrew : (Task.exec (unlock annSdk none "password1") []
        (Task.exec (changePassword none "password0" "password1") betweenWrites
          annWorld).state).outcome = .threw := by decide
    rw [hyields] at hthrew
    exact nomatch hthrew

/-- When Ann changes her password and the second await fails, it is known beforehand whether she is
locked out. -/
theorem changePassword_spared_iff_ann :
    NotLockedOut annSdk (resolveStoreKey none annWorld.session) "password0" "password1" annAccount
      (Task.exec (changePassword none "password0" "password1") [.ok, .throws] annWorld) ↔
      Spared "password0" "password0" "password1" annWorld.session.status [.ok, .throws] :=
  changePassword_spared_iff annSdk annWorld none "password0" "password0" "password1" "ann phrase"
    annAccount (by decide) annWorld_holds [.ok, .throws]

end RezChat.Browser
