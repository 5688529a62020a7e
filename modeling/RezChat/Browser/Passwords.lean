/-
Passwords (`ui/services/auth/AccountAuthService.js`).

Four calls take a password to seal an account under, and three take one to open it. All of them use
the string as it is, but for `unlock`, which trims it first. So an account that was sealed under a
string with space at an end is not unlocked with that string, nor with any other, although it is
revealed and deleted with it (`padded_locks_out`); and one that was sealed under a string without
is unlocked with every padding of it.

Of an accepted password and a string that is tried, the calls do what they should exactly if
trimming the string does not change whether it is the password (`accepted_opens_iff`).
-/
import RezChat.Browser.Auth

set_option autoImplicit false

namespace RezChat.Browser

open Inbox (trim trim_trim)
open Contacts (utf16Length)
open Option Proc RezChat.Task Value Sealed

/-! ## What a slot holds -/

/-- The slot holds the account under the password, and so is its recovery envelope, where it has
one. -/
structure SealedWith (sdk : Sdk) (w : World) (slot password : String) (a : Account) : Prop where
  main : w.storage (keystoreKey slot) = some (.keystore ⟨password, a⟩)
  recovery : ∀ v, w.envelope (recoveryKey slot) = some v →
    ∃ mnemonic id, v = .phrase ⟨password, mnemonic⟩ ∧ sdk.accountIdOf mnemonic = some id ∧
      id.1 = a.accountId

variable {sdk : Sdk} {w : World} {slot p q : String} {a : Account}

theorem SealedWith.envelope (h : SealedWith sdk w slot p a) :
    w.envelope (keystoreKey slot) = some (.keystore ⟨p, a⟩) := by
  unfold World.envelope
  rw [h.main]
  rfl

theorem SealedWith.opened (h : SealedWith sdk w slot p a) :
    (w.envelope (keystoreKey slot)).bind (openAccount p) = some a := by
  rw [h.envelope, bind_some, openAccount, opened_mk]

/-- It is about the storage alone. -/
theorem SealedWith.congr {w' : World} (h : SealedWith sdk w slot p a)
    (hstorage : w'.storage = w.storage) : SealedWith sdk w' slot p a := by
  refine ⟨?_, ?_⟩
  · rw [hstorage]
    exact h.main
  · intro v hv
    refine h.recovery v ?_
    rwa [World.envelope, hstorage] at hv

/-! ## Opening it -/

/-- What a string unlocks in a slot: the keystore opens to the account, and so does the recovery
envelope, where there is one. -/
structure UnlocksTo (sdk : Sdk) (w : World) (slot q : String) (b : Account) : Prop where
  nonblank : trim q ≠ ""
  main : (w.envelope (keystoreKey slot)).bind (openAccount (trim q)) = some b
  recovery : ∀ v, w.envelope (recoveryKey slot) = some v →
    ∃ mnemonic id, v.openMnemonic (trim q) = some mnemonic ∧ sdk.accountIdOf mnemonic = some id ∧
      id.1 = b.accountId

theorem account_setAccountIdHint (id hint : String) (w : World) :
    wp (exec (setAccountIdHint id hint)) (fun _ s => s.account = w.account)
      (fun s => s.account = w.account) (fun s => s.account = w.account) w := by
  unfold setAccountIdHint
  rw [exec_called]
  refine wp_awaited ?_ rfl rfl rfl
  dsimp only
  split
  · exact wp_pure rfl
  · show wp (exec (await _)) _ _ _ w
    rw [exec_await]
    exact wp_await rfl rfl rfl rfl

/-- The state that a call leaves that is said to leave it alone. -/
theorem yields_state {α : Type} {t : Task World α} {b : α} {s : World} {E D : World → Prop}
    (h : wp (exec t) (fun _ s => s = w) E D w) (hyields : Yields (exec t) w b s) :
    s = w := by
  have hstate := wp_returned h (congrArg Ending.outcome hyields)
  rwa [hyields] at hstate

theorem succeeds_setAccountIdHint (id hint : String) (w : World) :
    Succeeds (setAccountIdHint id hint) w := by
  refine succeeds_called (succeeds_awaited ?_)
  dsimp only
  by_cases h : trim id = "" ∨ ¬w.registry.any (fun e => e.id = trim id)
  · rw [if_pos h]
    exact succeeds_pure () w
  · rw [if_neg h]
    exact succeeds_await _ w

theorem succeeds_removeAccount {id : String} (hid : trim id ≠ "") (w : World) :
    Succeeds (removeAccount id) w := by
  refine succeeds_called (succeeds_awaited ?_)
  rw [if_neg hid]
  exact succeeds_await _ w

theorem succeeds_deleteAccountMetadata (id : String) (w : World) :
    Succeeds (deleteAccountMetadata id) w := by
  refine succeeds_called ?_
  by_cases hid : trim id = ""
  · rw [if_pos hid]
    exact succeeds_pure () w
  · rw [if_neg hid]
    exact succeeds_awaited (succeeds_awaited (succeeds_await _ _))

theorem succeeds_listAccounts (w : World) : Succeeds listAccounts w :=
  succeeds_called (succeeds_await _ w)

theorem yields_unlockKeystoreAccount {key : String}
    (h : (w.envelope key).bind (openAccount q) = some a) :
    Yields (exec (unlockKeystoreAccount q key)) w a w := by
  unfold unlockKeystoreAccount
  refine yields_awaited ?_
  rw [exec_compute]
  refine (yields_await _ w).bind ?_
  dsimp only
  rw [h]
  exact yields_pure a w

/-- It opens to what is in the keystore, and nothing is changed. -/
theorem unlockKeystoreAccount_spec (q key : String) (w : World) :
    wp (exec (unlockKeystoreAccount q key))
      (fun b s => s = w ∧ (w.envelope key).bind (openAccount q) = some b)
      (fun s => s = w) (fun s => s = w) w := by
  unfold unlockKeystoreAccount
  refine wp_awaited ?_ rfl rfl rfl
  exact wp_compute (fun b hb => ⟨rfl, hb⟩) rfl rfl

/-- With another password it does not open. -/
theorem openAccount_refused {key : String} (h : w.envelope key = some (.keystore ⟨p, a⟩))
    (hq : q ≠ p) (b : Account) : (w.envelope key).bind (openAccount q) ≠ some b := by
  rw [h, bind_some, openAccount, opened_of_ne hq]
  exact nofun

theorem yields_checkRecovery (h : UnlocksTo sdk w slot q a) :
    Yields (exec (checkRecovery sdk slot (trim q) a)) w () w := by
  unfold checkRecovery
  refine yields_awaited ?_
  cases hv : w.envelope (recoveryKey slot) with
  | none => exact yields_pure () w
  | some v =>
    obtain ⟨mnemonic, id, hopen, hid, heq⟩ := h.recovery v hv
    refine yields_awaited ?_
    refine yields_computed (a := mnemonic) ?_ (yields_computed hid ?_)
    · show (w.envelope (recoveryKey slot)).bind _ = _
      rw [hv]
      exact hopen
    · rw [if_neg (not_not_intro heq)]
      exact yields_pure () w

theorem checkRecovery_spec (slot q : String) (b : Account) (w : World) :
    wp (exec (checkRecovery sdk slot q b))
      (fun _ s => s = w ∧ ∀ v, w.envelope (recoveryKey slot) = some v →
        ∃ mnemonic id, v.openMnemonic q = some mnemonic ∧ sdk.accountIdOf mnemonic = some id ∧
          id.1 = b.accountId)
      (fun s => s = w) (fun s => s = w) w := by
  unfold checkRecovery
  refine wp_awaited ?_ rfl rfl rfl
  cases hv : w.envelope (recoveryKey slot) with
  | none => exact wp_pure ⟨rfl, nofun⟩
  | some v =>
    refine wp_awaited ?_ rfl rfl rfl
    refine wp_computed (fun mnemonic hopen => ?_) rfl rfl
    refine wp_computed (fun id hid => ?_) rfl rfl
    split
    · exact wp_throw rfl
    · rename_i heq
      refine wp_pure ⟨rfl, ?_⟩
      rintro v' hv'
      obtain rfl := some_inj.1 hv'
      refine ⟨mnemonic, id, ?_, hid, not_not.1 heq⟩
      have hbind : (w.envelope (recoveryKey slot)).bind (openMnemonic q) = some mnemonic := hopen
      rwa [hv] at hbind

/-- The read of a preference leaves the state alone. -/
theorem getLocalOnly_spec (k : String) (w : World) :
    wp (exec (getLocalOnlyKeystoreSync k)) (fun _ s => s = w) (fun s => s = w)
      (fun s => s = w) w := by
  unfold getLocalOnlyKeystoreSync
  rw [exec_called]
  refine wp_caught (F := fun s => s = w) ?_ fun s hs => wp_pure hs
  rw [exec_await]
  exact wp_await rfl rfl rfl rfl

theorem succeeds_admitAccount (a : Account) (slot : String) (v : Value) (localOnly : Bool) (w : World) :
    Succeeds (admitAccount a slot v localOnly) w := by
  refine succeeds_modified (succeeds_then
    (succeeds_tryCatch (succeeds_setAccountIdHint _ _ _) _) ?_)
  intro _ w'
  exact succeeds_modified (succeeds_pure _ _)

/-- **Unlocking.** A call that returns has unlocked what the slot opens to, and keeps it. -/
theorem unlock_spec (uid : Option String) (q : String) (w : World) :
    wp (exec (unlock sdk uid q))
      (fun _ s => ∃ b, UnlocksTo sdk w (unlockSlot uid w.session) q b ∧ s.account = some b)
      (fun _ => True) (fun _ => True) w := by
  unfold unlock
  dsimp only
  by_cases hblank : trim q = ""
  · rw [if_pos hblank]
    exact wp_throw trivial
  · rw [if_neg hblank]
    refine wp_got (wp_seq (wp_mono (getLocalOnly_spec _ w) (fun _ _ h => h)
      (fun _ _ => trivial) fun _ _ => trivial) ?_)
    rintro isLocalOnly _ rfl
    refine wp_awaited ?_ trivial trivial trivial
    split
    · exact wp_modified (wp_throw trivial)
    · refine wp_modified (wp_caught (F := fun _ => True) ?_ fun s _ =>
        wp_modified (wp_throw trivial))
      refine wp_seq (wp_mono (unlockKeystoreAccount_spec _ _ _) (fun _ _ h => h)
        (fun _ _ => trivial) fun _ _ => trivial) ?_
      rintro b _ ⟨rfl, hmain⟩
      refine wp_seq (wp_mono (checkRecovery_spec _ _ _ _) (fun _ _ h => h)
        (fun _ _ => trivial) fun _ _ => trivial) ?_
      rintro - _ ⟨rfl, hrecovery⟩
      refine wp_modified (wp_seq (K := fun _ s => s.account = some b) ?_ ?_)
      · exact wp_halfway (wp_mono (account_setAccountIdHint _ _ _) (fun _ _ h => h)
          (fun _ _ => trivial) fun _ _ => trivial)
      · intro _ s hs
        exact wp_modified (wp_pure ⟨b, ⟨hblank, hmain, hrecovery⟩, hs⟩)

/-- And it returns where there is such an account. -/
theorem unlock_succeeds {uid : Option String}
    (h : UnlocksTo sdk w (unlockSlot uid w.session) q a) : Succeeds (unlock sdk uid q) w := by
  unfold unlock
  dsimp only
  rw [if_neg h.nonblank]
  obtain ⟨b, s, hlocal⟩ : Succeeds (getLocalOnlyKeystoreSync (unlockSlot uid w.session)) w :=
    succeeds_called (succeeds_tryCatch (succeeds_await _ w) _)
  obtain rfl := yields_state (getLocalOnly_spec _ w) hlocal
  refine succeeds_got (succeeds_seq hlocal (succeeds_awaited ?_))
  obtain ⟨v, hv, -⟩ := bind_eq_some_iff.1 h.main
  rw [hv]
  refine succeeds_modified (succeeds_tryCatch ?_ _)
  have h' : UnlocksTo sdk (s.onSession SessionStore.setUnlocking) (unlockSlot uid s.session) q a :=
    ⟨h.nonblank, h.main, h.recovery⟩
  refine succeeds_seq (yields_unlockKeystoreAccount h'.main) ?_
  exact succeeds_seq (yields_checkRecovery h') (succeeds_admitAccount a _ _ b _)

/-- Only the account of the slot is unlocked. -/
theorem unlock_succeeds_iff (uid : Option String) :
    Succeeds (unlock sdk uid q) w ↔ ∃ b, UnlocksTo sdk w (unlockSlot uid w.session) q b := by
  constructor
  · rintro ⟨r, s, hyields⟩
    obtain ⟨b, hb, -⟩ := wp_returned (unlock_spec uid q w) (congrArg Ending.outcome hyields)
    exact ⟨b, hb⟩
  · rintro ⟨b, hb⟩
    exact unlock_succeeds hb

/-- Under a password, a slot is unlocked with the strings that, trimmed, are the password. -/
theorem SealedWith.unlocksTo_iff (h : SealedWith sdk w slot p a) (hp : p ≠ "") :
    (∃ b, UnlocksTo sdk w slot q b) ↔ trim q = p := by
  constructor
  · rintro ⟨b, hb⟩
    by_contra hne
    exact openAccount_refused h.envelope hne b hb.main
  · rintro rfl
    refine ⟨a, hp, ?_, ?_⟩
    · rw [h.envelope, bind_some, openAccount, opened_mk]
    · intro v hv
      obtain ⟨mnemonic, id, rfl, hid, heq⟩ := h.recovery v hv
      exact ⟨mnemonic, id, opened_mk _ _, hid, heq⟩

/-- **Revealing** the phrase succeeds with the password. -/
theorem revealMnemonic_succeeds_iff {rid : Option String} (hp : p ≠ "")
    (h : SealedWith sdk w (resolveStoreKey rid w.session) p a)
    (hrecovery : (w.envelope (recoveryKey (resolveStoreKey rid w.session))).isSome = true) :
    Succeeds (revealMnemonic rid q) w ↔ q = p := by
  constructor
  · intro hsucceeds
    by_contra hne
    refine not_succeeds (E := fun _ => True) (D := fun _ => True) ?_ hsucceeds
    unfold revealMnemonic
    by_cases hblank : q = ""
    · rw [if_pos hblank]
      exact wp_throw trivial
    · rw [if_neg hblank]
      refine wp_got (wp_awaited ?_ trivial trivial trivial)
      dsimp only
      rw [hrecovery, if_neg (by decide)]
      refine wp_seq (wp_mono (unlockKeystoreAccount_spec _ _ _) (fun _ _ h => h)
        (fun _ _ => trivial) fun _ _ => trivial) ?_
      exact fun b s hs => (openAccount_refused h.envelope hne b hs.2).elim
  · rintro rfl
    unfold revealMnemonic
    rw [if_neg hp]
    obtain ⟨v, hv⟩ := isSome_iff_exists.1 hrecovery
    obtain ⟨mnemonic, id, rfl, -, -⟩ := h.recovery v hv
    refine succeeds_got (succeeds_awaited ?_)
    dsimp only
    rw [hrecovery, if_neg (by decide)]
    refine succeeds_seq (yields_unlockKeystoreAccount h.opened) (succeeds_awaited ?_)
    dsimp only
    rw [hv, bind_some, openMnemonic, opened_mk]
    exact succeeds_compute mnemonic w

/-- **Deleting** the account succeeds with the password. -/
theorem purgeAccount_succeeds_iff {rid : Option String} (hp : p ≠ "")
    (hslot : trim (resolveStoreKey rid w.session) ≠ "")
    (h : SealedWith sdk w (resolveStoreKey rid w.session) p a) :
    Succeeds (purgeAccount rid q) w ↔ q = p := by
  constructor
  · intro hsucceeds
    by_contra hne
    refine not_succeeds (E := fun _ => True) (D := fun _ => True) ?_ hsucceeds
    unfold purgeAccount
    by_cases hblank : q = ""
    · rw [if_pos hblank]
      exact wp_throw trivial
    · rw [if_neg hblank]
      refine wp_got (wp_seq (wp_mono (unlockKeystoreAccount_spec _ _ _)
        (fun _ _ h => h) (fun _ _ => trivial) fun _ _ => trivial) ?_)
      exact fun b s hs => (openAccount_refused h.envelope hne b hs.2).elim
  · rintro rfl
    unfold purgeAccount
    rw [if_neg hp]
    refine succeeds_got (succeeds_seq (yields_unlockKeystoreAccount h.opened) ?_)
    refine succeeds_awaited (succeeds_awaited (succeeds_awaited ?_))
    refine succeeds_then (succeeds_deleteAccountMetadata _ _) fun _ w' => ?_
    refine succeeds_then (succeeds_removeAccount hslot w') fun _ w' => ?_
    refine succeeds_modified (succeeds_then (succeeds_listAccounts _) ?_)
    intro accounts w'
    refine succeeds_modified ?_
    cases accounts with
    | nil => exact succeeds_modified (succeeds_pure _ _)
    | cons e accounts => exact succeeds_modified (succeeds_pure _ _)

/-! ## Sealing it -/

/-- Another part of the storage is written. -/
theorem SealedWith.put {key : String} (h : SealedWith sdk w slot p a) (v : Value)
    (hmain : keystoreKey slot ≠ key) (hrecovery : recoveryKey slot ≠ key) :
    SealedWith sdk (w.put key v) slot p a := by
  constructor
  · rw [World.put_storage, if_neg hmain]
    exact h.main
  · intro v' hv'
    refine h.recovery v' ?_
    rwa [World.envelope, World.put_storage, if_neg hrecovery] at hv'

/-- The keystore is written, next to a recovery envelope for the same account. -/
theorem sealedWith_put (hrecovery : ∀ v, w.envelope (recoveryKey slot) = some v →
      ∃ mnemonic id, v = .phrase ⟨p, mnemonic⟩ ∧ sdk.accountIdOf mnemonic = some id ∧
        id.1 = a.accountId) :
    SealedWith sdk (w.put (keystoreKey slot) (.keystore ⟨p, a⟩)) slot p a := by
  constructor
  · rw [World.put_storage, if_pos rfl]
  · intro v hv
    refine hrecovery v ?_
    rwa [World.envelope, World.put_storage, if_neg (recoveryKey_ne_keystoreKey slot)] at hv

/-- Only that which returns is asked about. -/
abbrev Returns {α : Type} (t : Task World α) (w : World) (R : α → World → Prop) : Prop :=
  wp (exec t) R (fun _ => True) (fun _ => True) w

theorem returns_orCleanUp {α : Type} {t : Task World α} {R : α → World → Prop}
    (cleanup : Task World Unit) (ht : Returns t w R) : Returns (orCleanUp cleanup t) w R := by
  refine wp_caught ht fun s _ => ?_
  refine wp_seq (K := fun _ _ => True) ?_ fun _ _ _ => wp_throw trivial
  exact wp_any (fun _ _ => trivial) (fun _ => trivial) fun _ => trivial

/-- What reads the list of the slots first. -/
theorem wp_listed {α : Type} {k : List Entry → Task World α} {R : α → World → Prop}
    {E D : World → Prop} (hk : wp (exec (k w.registry)) R E D w) (hE : E w) (hD : D w) :
    wp (exec (listAccounts >>= k)) R E D w := by
  refine wp_seq (K := fun l s => l = w.registry ∧ s = w) ?_ ?_
  · unfold listAccounts
    rw [exec_called]
    show wp (exec (await _)) _ _ _ w
    rw [exec_await]
    exact wp_await ⟨rfl, rfl⟩ hE hE hD
  · rintro _ _ ⟨rfl, rfl⟩
    exact hk

theorem returns_listed {α : Type} {k : List Entry → Task World α} {R : α → World → Prop}
    (hk : Returns (k w.registry) w R) : Returns (listAccounts >>= k) w R :=
  wp_listed hk trivial trivial

section Registry

variable {I : World → Prop}

/-- What is true of the storage and does not depend on the registry, a change of the registry
keeps. -/
theorem returns_addAccount (hI : ∀ v, I (w.put registryKey v)) (id label : String) :
    Returns (addAccount id label) w fun _ => I := by
  unfold addAccount
  rw [Returns, exec_called]
  refine wp_awaited ?_ trivial trivial trivial
  by_cases hid : trim id = ""
  · rw [if_pos hid]
    exact wp_throw trivial
  · rw [if_neg hid]
    show wp (exec (await _)) _ _ _ w
    rw [exec_await]
    exact wp_await (hI _) trivial trivial trivial

theorem returns_setAccountIdHint (hw : I w) (hI : ∀ v, I (w.put registryKey v))
    (id hint : String) : Returns (setAccountIdHint id hint) w fun _ => I := by
  unfold setAccountIdHint
  rw [Returns, exec_called]
  refine wp_awaited ?_ trivial trivial trivial
  dsimp only
  by_cases h : trim id = "" ∨ ¬w.registry.any (fun e => e.id = trim id)
  · rw [if_pos h]
    exact wp_pure hw
  · rw [if_neg h]
    show wp (exec (await _)) _ _ _ w
    rw [exec_await]
    exact wp_await (hI _) trivial trivial trivial

end Registry

theorem SealedWith.put_registry (h : SealedWith sdk w slot p a) (hslot : IsSlot slot) (v : Value) :
    SealedWith sdk (w.put registryKey v) slot p a :=
  h.put v (key_ne_registryKey hslot .keystore) (key_ne_registryKey hslot .recovery)

/-- What a call leaves that took a password to seal an account under. -/
def Accepted (sdk : Sdk) (p : String) (slot : String) (w : World) : Prop :=
  8 ≤ utf16Length p ∧ ∃ a, SealedWith sdk w slot p a

/-- The recovery envelope for a phrase, as it is written before the keystore. -/
theorem recovery_put {mnemonic : String} {id : { s : String // IsId s }}
    (hid : sdk.accountIdOf mnemonic = some id) (v : Value)
    (hv : (w.put (recoveryKey slot) (.phrase ⟨p, mnemonic⟩)).envelope (recoveryKey slot) = some v) :
    ∃ mnemonic id', v = .phrase ⟨p, mnemonic⟩ ∧ sdk.accountIdOf mnemonic = some id' ∧
      id'.1 = id.1 := by
  rw [World.envelope, World.put_storage, if_pos rfl] at hv
  exact ⟨mnemonic, id, (some_inj.1 hv).symm, hid, rfl⟩

theorem createSlot_accepted (call : CreateCall) :
    Returns (createSlot sdk call) w (Accepted sdk call.password) := by
  unfold createSlot
  by_cases hcheck : trim call.profileName = "" ∨ call.password = "" ∨
      utf16Length call.password < 8
  · rw [if_pos hcheck]
    exact wp_throw trivial
  · rw [if_neg hcheck]
    have hlength : 8 ≤ utf16Length call.password := by
      simp only [not_or, not_lt] at hcheck
      exact hcheck.2.2
    refine returns_listed ?_
    have hslot := isSlot_newStoreKey w.registry call.nowMs
    generalize newStoreKey w.registry call.nowMs = slot at hslot ⊢
    refine wp_awaited ?_ trivial trivial trivial
    split
    · exact wp_throw trivial
    · refine wp_computed ?_ trivial trivial
      rintro mnemonic hmnemonic
      obtain rfl := some_inj.1 hmnemonic
      refine wp_computed (fun id hid => ?_) trivial trivial
      refine wp_computed ?_ trivial trivial
      rintro envelope henvelope
      obtain rfl := some_inj.1 henvelope
      refine wp_awaited ?_ trivial trivial trivial
      -- the keystore is written, then the slot is registered
      have hsealed : SealedWith sdk
          ((w.put (recoveryKey slot) (.phrase ⟨call.password, call.mnemonic⟩)).put
            (keystoreKey slot) (.keystore ⟨call.password,
              rootAccount id (sdk.privateKeyOf call.mnemonic) call.device⟩)) slot call.password
          (rootAccount id (sdk.privateKeyOf call.mnemonic) call.device) :=
        sealedWith_put fun v hv => recovery_put hid v hv
      refine wp_seq (K := fun _ s => Accepted sdk call.password slot s) ?_ ?_
      · refine returns_orCleanUp _ (wp_awaited ?_ trivial trivial trivial)
        exact returns_addAccount (fun v => ⟨hlength, _, hsealed.put_registry hslot v⟩) _ _
      · rintro - s ⟨-, a, ha⟩
        split
        · refine wp_seq (K := fun _ s => Accepted sdk call.password slot s) ?_
            fun _ s hs => wp_pure hs
          unfold setLocalOnlyKeystoreSync
          rw [exec_called]
          refine wp_caught (F := fun s => Accepted sdk call.password slot s) ?_
            fun s hs => wp_pure hs
          rw [exec_await]
          have hput : Accepted sdk call.password slot (s.put (localOnlyKey slot) (.flag true)) :=
            ⟨hlength, a, ha.put _
              (fun h => absurd (@key_inj slot slot .keystore .localOnly hslot hslot h).1 (by decide))
              (fun h => absurd (@key_inj slot slot .recovery .localOnly hslot hslot h).1 (by decide))⟩
          exact wp_await hput ⟨hlength, a, ha⟩ hput trivial
        · exact wp_pure ⟨hlength, a, ha⟩

theorem restoreSlot_accepted (call : RestoreCall) :
    Returns (restoreSlot sdk call) w (Accepted sdk call.newPassword) := by
  unfold restoreSlot
  dsimp only
  by_cases hcheck : utf16Length call.newPassword < 8
  · rw [if_pos hcheck]
    exact wp_throw trivial
  · rw [if_neg hcheck]
    have hlength : 8 ≤ utf16Length call.newPassword := by omega
    refine wp_computed (fun id hid => ?_) trivial trivial
    refine returns_listed ?_
    have hslot := isSlot_newStoreKey w.registry call.nowMs
    generalize newStoreKey w.registry call.nowMs = slot at hslot ⊢
    split
    · exact wp_throw trivial
    · refine wp_awaited ?_ trivial trivial trivial
      split
      · exact wp_throw trivial
      · refine wp_computed ?_ trivial trivial
        rintro envelope henvelope
        obtain rfl := some_inj.1 henvelope
        refine wp_awaited ?_ trivial trivial trivial
        have hsealed : SealedWith sdk
            ((w.put (recoveryKey slot) (.phrase ⟨call.newPassword, call.mnemonic⟩)).put
              (keystoreKey slot) (.keystore ⟨call.newPassword,
                rootAccount id (sdk.privateKeyOf call.mnemonic) call.device⟩)) slot
            call.newPassword (rootAccount id (sdk.privateKeyOf call.mnemonic) call.device) :=
          sealedWith_put fun v hv => recovery_put hid v hv
        refine wp_seq (K := fun _ s => ∃ a, SealedWith sdk s slot call.newPassword a) ?_ ?_
        · refine returns_orCleanUp _ (wp_awaited ?_ trivial trivial trivial)
          exact returns_addAccount (fun v => ⟨_, hsealed.put_registry hslot v⟩) _ _
        · rintro - s ⟨a, ha⟩
          refine wp_seq (K := fun _ s => Accepted sdk call.newPassword slot s) ?_
            fun _ s hs => wp_pure hs
          refine returns_orCleanUp _ (returns_setAccountIdHint ⟨hlength, a, ha⟩ ?_ _ _)
          exact fun v => ⟨hlength, a, ha.put_registry hslot v⟩

/-- A linked device has no recovery envelope: there must be none where its keystore is put. -/
theorem persistLinkedDevice_accepted {profileName : String} {delegation : Option Account}
    (hlength : 8 ≤ utf16Length p) (hslot : IsSlot slot)
    (hnone : w.envelope (recoveryKey slot) = none) :
    Returns (persistLinkedDevice slot p profileName delegation) w
      fun slot' s => slot' = slot ∧ Accepted sdk p slot s := by
  unfold persistLinkedDevice
  cases delegation with
  | none => exact wp_throw trivial
  | some b =>
    have hsealed : SealedWith sdk (w.put (keystoreKey slot) (.keystore ⟨p, b⟩)) slot p b := by
      refine sealedWith_put fun v hv => ?_
      rw [hnone] at hv
      exact nomatch hv
    refine wp_seq (K := fun _ s => ∃ a, SealedWith sdk s slot p a) ?_ ?_
    · refine returns_orCleanUp _ (wp_awaited ?_ trivial trivial trivial)
      exact returns_addAccount (fun v => ⟨_, hsealed.put_registry hslot v⟩) _ _
    · rintro - s ⟨a, ha⟩
      refine wp_seq (K := fun _ s => Accepted sdk p slot s) ?_ fun _ s hs => wp_pure ⟨rfl, hs⟩
      refine returns_orCleanUp _ (returns_setAccountIdHint ⟨hlength, a, ha⟩ ?_ _ _)
      exact fun v => ⟨hlength, a, ha.put_registry hslot v⟩

theorem linkSlot_accepted (call : LinkCall)
    (hnone : w.envelope (recoveryKey (newStoreKey w.registry call.nowMs)) = none) :
    Returns (linkSlot call) w (Accepted sdk call.password) := by
  unfold linkSlot
  by_cases hcheck : trim call.linkCode = "" ∨ trim call.profileName = "" ∨
      utf16Length call.password < 8
  · rw [if_pos hcheck]
    exact wp_throw trivial
  · rw [if_neg hcheck]
    have hlength : 8 ≤ utf16Length call.password := by
      simp only [not_or, not_lt] at hcheck
      exact hcheck.2.2
    refine returns_listed ?_
    have hslot := isSlot_newStoreKey w.registry call.nowMs
    generalize newStoreKey w.registry call.nowMs = slot at hslot hnone ⊢
    refine wp_awaited ?_ trivial trivial trivial
    split
    · exact wp_throw trivial
    · refine wp_seq (K := fun linked s => linked = some slot → Accepted sdk call.password slot s)
        ?_ ?_
      · -- what is cleaned up after fails
        refine wp_caught (F := fun _ => True) ?_ ?_
        · unfold deviceLinkRunner
          rw [exec_called]
          refine wp_computed (fun _ _ => ?_) trivial trivial
          split
          · refine wp_seq (K := fun slot' s => slot' = slot ∧
              Accepted sdk call.password slot s) ?_ ?_
            · rw [exec_called]
              exact persistLinkedDevice_accepted hlength hslot hnone
            · rintro slot' s ⟨rfl, hs⟩
              exact wp_computed (fun _ _ => wp_pure fun _ => hs) trivial trivial
          · refine wp_computed (fun _ _ => wp_pure ?_) trivial trivial
            exact nofun
        · intro s _
          refine wp_awaited ?_ trivial trivial trivial
          split
          · refine wp_seq (K := fun _ _ => True) ?_ fun _ _ _ => wp_throw trivial
            exact wp_any (fun _ _ => trivial) (fun _ => trivial) fun _ => trivial
          · exact wp_throw trivial
      · intro linked s hs
        by_cases hlinked : linked = some slot
        · rw [if_pos hlinked]
          exact wp_pure (hs hlinked)
        · rw [if_neg hlinked]
          exact wp_throw trivial

/-- The envelopes of a slot are for one account. -/
def Coherent (sdk : Sdk) (w : World) (slot : String) : Prop :=
  ∀ p a p' mnemonic, w.envelope (keystoreKey slot) = some (.keystore ⟨p, a⟩) →
    w.envelope (recoveryKey slot) = some (.phrase ⟨p', mnemonic⟩) →
    ∃ id, sdk.accountIdOf mnemonic = some id ∧ id.1 = a.accountId

/-- What `changePassword` is about to write is under the new password what is stored under the
old. -/
structure Resealed.Of (w : World) (accountId : Option String) (old new : String) (r : Resealed) :
    Prop where
  storeKey : r.storeKey = resolveStoreKey accountId w.session
  length : 8 ≤ utf16Length new
  ne : old ≠ new
  recovery : ∃ mnemonic, r.nextRecovery = .phrase ⟨new, mnemonic⟩ ∧
    r.recovery = some (.phrase ⟨old, mnemonic⟩)
  was : w.envelope (recoveryKey r.storeKey) = r.recovery
  main : ∃ a, r.nextMain = .keystore ⟨new, a⟩ ∧
    w.envelope (keystoreKey r.storeKey) = some (.keystore ⟨old, a⟩)

theorem openMnemonic_eq_some {v : Value} {password mnemonic : String}
    (h : v.openMnemonic password = some mnemonic) : v = .phrase ⟨password, mnemonic⟩ := by
  cases v with
  | phrase envelope =>
    obtain ⟨hkey, hcontent⟩ := opened_eq_some_iff.1 h
    obtain ⟨key, content⟩ := envelope
    dsimp only at hkey hcontent
    rw [hkey, hcontent]
  | keystore _ => exact nomatch h
  | registry _ => exact nomatch h
  | flag _ => exact nomatch h
  | text _ => exact nomatch h

theorem openAccount_eq_some {v : Value} {password : String}
    (h : v.openAccount password = some a) : v = .keystore ⟨password, a⟩ := by
  cases v with
  | keystore envelope =>
    obtain ⟨hkey, hcontent⟩ := opened_eq_some_iff.1 h
    obtain ⟨key, content⟩ := envelope
    dsimp only at hkey hcontent
    rw [hkey, hcontent]
  | phrase _ => exact nomatch h
  | registry _ => exact nomatch h
  | flag _ => exact nomatch h
  | text _ => exact nomatch h

/-- Nothing is written before it is known what. -/
theorem reseal_spec (accountId : Option String) (old new : String) (w : World) :
    wp (exec (reseal accountId old new))
      (fun r s => s = w ∧ r.Of w accountId old new) (fun s => s = w) (fun s => s = w) w := by
  unfold reseal
  by_cases hcheck : old = "" ∨ utf16Length new < 8 ∨ old = new
  · rw [if_pos hcheck]
    exact wp_throw rfl
  · rw [if_neg hcheck]
    simp only [not_or, not_lt] at hcheck
    obtain ⟨-, hlength, hne⟩ := hcheck
    refine wp_got (wp_awaited ?_ rfl rfl rfl)
    split
    · exact wp_throw rfl
    · refine wp_awaited (wp_awaited ?_ rfl rfl rfl) rfl rfl rfl
      refine wp_computed (fun mnemonic hmnemonic => ?_) rfl rfl
      refine wp_computed (fun a ha => ?_) rfl rfl
      refine wp_computed (fun v hv => wp_pure ⟨rfl, ?_⟩) rfl rfl
      obtain ⟨recovery, hrecovery, hphrase⟩ := bind_eq_some_iff.1 hmnemonic
      obtain ⟨main, hmain, hkeystore⟩ := bind_eq_some_iff.1 ha
      refine ⟨rfl, hlength, hne, ⟨mnemonic, (some_inj.1 hv).symm, ?_⟩, rfl, a, rfl, ?_⟩
      · exact hrecovery.trans (congrArg some (openMnemonic_eq_some hphrase))
      · exact hmain.trans (congrArg some (openAccount_eq_some hkeystore))

/-- Locking writes nothing. -/
theorem logout_storage (w : World) (storage : String → Option Value) (hw : w.storage = storage) :
    wp (exec logout) (fun _ s => s.storage = storage) (fun s => s.storage = storage)
      (fun s => s.storage = storage) w := by
  unfold logout
  refine wp_got ?_
  split
  · exact wp_modify hw
  · refine wp_modified (wp_awaited ?_ hw hw hw)
    refine wp_seq (K := fun _ s => s.storage = storage) ?_ fun entries s hs => ?_
    · unfold listAccounts
      rw [exec_called]
      show wp (exec (await _)) _ _ _ _
      rw [exec_await]
      exact wp_await hw hw hw hw
    · refine wp_modified ?_
      dsimp only
      split
      · exact wp_modify hs
      · exact wp_modify hs

theorem changePassword_accepted (accountId : Option String) (old new : String)
    (hcoherent : Coherent sdk w (resolveStoreKey accountId w.session)) :
    Returns (changePassword accountId old new) w
      fun _ s => Accepted sdk new (resolveStoreKey accountId w.session) s := by
  unfold changePassword
  refine wp_seq (wp_mono (reseal_spec accountId old new w) (fun _ _ h => h)
    (fun _ _ => trivial) fun _ _ => trivial) ?_
  rintro r s ⟨rfl, hr⟩
  obtain ⟨mnemonic, hnextRecovery, hrecovery⟩ := hr.recovery
  obtain ⟨a, hnextMain, hmain⟩ := hr.main
  obtain ⟨id, hid, heq⟩ := hcoherent old a old mnemonic (hr.storeKey ▸ hmain)
    (hr.storeKey ▸ hr.was.trans hrecovery)
  rw [← hr.storeKey]
  refine wp_seq (K := fun _ s => Accepted sdk new r.storeKey s) ?_ ?_
  · unfold rewrite
    refine wp_awaited ?_ trivial trivial trivial
    refine wp_caught (F := fun _ => True) ?_ ?_
    · show wp (exec (await _)) _ _ _ _
      rw [exec_await]
      refine wp_await ⟨hr.length, a, ?_⟩ trivial trivial trivial
      rw [hnextMain, hnextRecovery]
      refine sealedWith_put fun v hv => ?_
      obtain ⟨mnemonic, id', rfl, hid', heq'⟩ := recovery_put hid v hv
      exact ⟨mnemonic, id', rfl, hid', heq'.trans heq⟩
    · intro s _
      refine wp_seq (K := fun _ _ => True) ?_ fun _ _ _ => wp_throw trivial
      exact wp_any (fun _ _ => trivial) (fun _ => trivial) fun _ => trivial
  · rintro - s ⟨hlength, a, ha⟩
    refine wp_got (wp_seq (K := fun _ t => t.storage = s.storage) ?_ ?_)
    · rw [exec_called]
      exact wp_mono (logout_storage s s.storage rfl) (fun _ _ h => h) (fun _ _ => trivial)
        fun _ _ => trivial
    · exact fun _ t ht => wp_pure ⟨hlength, a, ha.congr ht⟩

/-! ## The calls that take a password -/

/-- A call that takes a password to seal an account under. -/
inductive Entrance where
  | create (call : CreateCall)
  | link (call : LinkCall)
  | restore (call : RestoreCall)
  | change (accountId : Option String) (oldPassword newPassword : String)

namespace Entrance

def password : Entrance → String
  | create call => call.password
  | link call => call.password
  | restore call => call.newPassword
  | change _ _ newPassword => newPassword

/-- The call, up to where it has accepted the password: the slot that is sealed under it. -/
def run (sdk : Sdk) : Entrance → Task World String
  | create call => createSlot sdk call
  | link call => linkSlot call
  | restore call => restoreSlot sdk call
  | change accountId oldPassword newPassword => do
    let w ← get
    let _ ← changePassword accountId oldPassword newPassword
    pure (resolveStoreKey accountId w.session)

/-- The slot is fit for the call: a new device finds no recovery envelope where its keystore is put,
and the envelopes that are resealed are for one account. -/
def Fits (sdk : Sdk) (w : World) : Entrance → Prop
  | create _ => True
  | link call => w.envelope (recoveryKey (newStoreKey w.registry call.nowMs)) = none
  | restore _ => True
  | change accountId _ _ => Coherent sdk w (resolveStoreKey accountId w.session)

theorem accepted (e : Entrance) (hfits : e.Fits sdk w) :
    Returns (e.run sdk) w (Accepted sdk e.password) := by
  cases e with
  | create call => exact createSlot_accepted call
  | link call => exact linkSlot_accepted call hfits
  | restore call => exact restoreSlot_accepted call
  | change accountId oldPassword newPassword =>
    refine wp_got (wp_seq (changePassword_accepted accountId oldPassword newPassword hfits)
      ?_)
    exact fun _ s hs => wp_pure hs

end Entrance

/-- The calls that open an account are for this slot. -/
structure Addresses (w : World) (slot : String) (uid rid : Option String) : Prop where
  unlock : unlockSlot uid w.session = slot
  resolve : resolveStoreKey rid w.session = slot
  named : trim slot ≠ ""

/-- **The law.** The calls that open what is in the slot succeed with the password, and with nothing
else. -/
structure OpensExactly (sdk : Sdk) (w : World) (slot p q : String) (uid rid : Option String) :
    Prop where
  unlock : Succeeds (unlock sdk uid q) w ↔ q = p
  reveal : (w.envelope (recoveryKey slot)).isSome = true →
    (Succeeds (revealMnemonic rid q) w ↔ q = p)
  purge : Succeeds (purgeAccount rid q) w ↔ q = p

/-- **Every accepted password opens what it sealed** exactly where trimming the string that is tried
does not change whether it is the password. -/
theorem accepted_opens_iff (sdk : Sdk) (e : Entrance) (w : World) (hfits : e.Fits sdk w)
    (fates : List Fate) (slot : String)
    (haccepted : (Task.exec (e.run sdk) fates w).outcome = .returned slot) (w' : World)
    (hstorage : w'.storage = (Task.exec (e.run sdk) fates w).state.storage)
    (uid rid : Option String) (haddress : Addresses w' slot uid rid) (q : String) :
    OpensExactly sdk w' slot e.password q uid rid ↔ (trim q = e.password ↔ q = e.password) := by
  obtain ⟨hlength, a, hsealed⟩ := wp_returned (e.accepted hfits) haccepted
  have hp : e.password ≠ "" := by
    intro hblank
    rw [hblank] at hlength
    exact absurd hlength (by decide)
  have hsealed' : SealedWith sdk w' slot e.password a := hsealed.congr hstorage
  have hunlock : Task.Succeeds (unlock sdk uid q) w' ↔ trim q = e.password := by
    rw [unlock_succeeds_iff, haddress.unlock]
    exact hsealed'.unlocksTo_iff hp
  have hpurge := purgeAccount_succeeds_iff (q := q) hp (haddress.resolve ▸ haddress.named)
    (haddress.resolve ▸ hsealed')
  constructor
  · intro hlaw
    rw [← hunlock]
    exact hlaw.unlock
  · intro htrim
    refine ⟨hunlock.trans htrim, fun hrecovery => ?_, hpurge⟩
    exact revealMnemonic_succeeds_iff hp (haddress.resolve ▸ hsealed') (haddress.resolve ▸ hrecovery)

/-! ## A password with a space at its end -/

section Ann

theorem ann_isId : IsId "rez:acct:ann" := by decide

theorem dev_1_isId : IsId "rez:dev:1" := by decide

def annSdk : Sdk where
  accountIdOf mnemonic := if mnemonic = "ann phrase" then some ⟨"rez:acct:ann", ann_isId⟩ else none
  privateKeyOf mnemonic := mnemonic

def annAccount : Account where
  accountId := "rez:acct:ann"
  deviceId := "rez:dev:1"
  identityPrivateKeyB64 := some "ann phrase"
  devicePrivateKeyB64 := "dev 1"
  accountId_isId := ann_isId
  deviceId_isId := dev_1_isId

def annStorage (key : String) : Option Value :=
  if key = "default" then some (.keystore ⟨"password0", annAccount⟩)
  else if key = "recovery:default" then some (.phrase ⟨"password0", "ann phrase"⟩)
  else if key = registryKey then some (.registry [⟨"default", "Ann", some "rez:acct:ann"⟩])
  else none

/-- Ann's browser, which is locked. -/
def annWorld : World where
  storage := annStorage
  databases _ := []
  session := ⟨.locked, none, none, [⟨"default", "Ann", some "rez:acct:ann"⟩], some "default"⟩
  account := none
  pendingServerSyncEnvelope := none
  runtimeConnectSeq := 0
  sdkClient := none
  connectedIdentity := none
  nextClient := 0
  bootstrapped := []
  running := []
  watch := ⟨[], [], false, [], false, false, false, false, false⟩

def annChange (newPassword : String) : Entrance := .change none "password0" newPassword

theorem annChange_fits (newPassword : String) :
    (annChange newPassword).Fits annSdk annWorld := by
  intro p a p' mnemonic hmain hrecovery
  have ha : some (keystore ⟨"password0", annAccount⟩) = some (.keystore ⟨p, a⟩) := hmain
  have hm : some (phrase ⟨"password0", "ann phrase"⟩) = some (.phrase ⟨p', mnemonic⟩) :=
    hrecovery
  simp only [some.injEq, keystore.injEq, phrase.injEq, mk.injEq] at ha hm
  obtain ⟨-, rfl⟩ := ha
  obtain ⟨-, rfl⟩ := hm
  exact ⟨⟨"rez:acct:ann", by decide⟩, rfl, rfl⟩

/-- Ann changes her password to one that ends with a space. The change is accepted, and her account
is not unlocked any more. -/
theorem padded_locks_out :
    (Task.exec ((annChange "password1 ").run annSdk) [] annWorld).outcome = .returned "default" ∧
    Addresses (Task.exec ((annChange "password1 ").run annSdk) [] annWorld).state "default" none
      none ∧
    ¬OpensExactly annSdk (Task.exec ((annChange "password1 ").run annSdk) [] annWorld).state
      "default" "password1 " "password1 " none none := by
  refine ⟨by decide, ⟨by decide, by decide, by decide⟩, fun h => ?_⟩
  obtain ⟨r, w', hyields⟩ := h.unlock.2 rfl
  have hthrew : (Task.exec (unlock annSdk none "password1 ") []
      (Task.exec ((annChange "password1 ").run annSdk) [] annWorld).state).outcome = .threw := by
    decide
  rw [hyields] at hthrew
  exact nomatch hthrew

/-- A string that is her password but for a space before it. -/
theorem accepted_opens_iff_ann :
    OpensExactly annSdk (Task.exec ((annChange "password1").run annSdk) [] annWorld).state
      "default" "password1" " password1" none none ↔
        (trim " password1" = "password1" ↔ " password1" = "password1") :=
  accepted_opens_iff annSdk (annChange "password1") annWorld (annChange_fits _) [] "default"
    (by decide) _ rfl none none ⟨by decide, by decide, by decide⟩ " password1"

end Ann

end RezChat.Browser
