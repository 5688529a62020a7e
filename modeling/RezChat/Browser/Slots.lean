/-
Slots side by side (`ui/services/auth/AccountAuthService.js`,
`client/runtime/browserRuntimeStorage.js`).

A keystore lies under the key of its slot, and no two slots share a key (`key_inj`). The messages lie
in a database that is named after the account, so two slots share it if they hold one account, and
then they cannot read each other's records, and deleting one of them clears the messages of both.
Restoring from a phrase looks for the account in the registry first; linking a device does not, so a
browser may be linked to an account that it holds already (`linked_twice`). And what restoring finds
there is a hint, which is written only when the account is first unlocked.

If every slot that is made is for an account that no slot holds, the slots stay apart, and deleting
one leaves the others as they were (`slots_isolated`). The invariant of it says so of all keystores
(`Sound`); what a call may change of it is said once, for all of them (`Grew`).
-/
import RezChat.Browser.PasswordChange
import RezChat.Lib.Runs

set_option autoImplicit false

namespace RezChat.Browser

open Inbox (trim isJsSpace trimList_of_all not_isJsSpace_of_isDigit)
open Contacts (utf16Length)
open List Option Proc RezChat.Task World Runs

/-! ## Slots -/

/-- The name of a slot has no space to trim. -/
theorem IsSlot.trim {slot : String} (h : IsSlot slot) : Inbox.trim slot = slot := by
  rcases h with rfl | ⟨n, rfl⟩
  · decide
  · rw [Inbox.trim, trimList_of_all, String.ofList_toList]
    intro c hc
    rw [String.toList_append, mem_append] at hc
    rcases hc with hc | hc
    · have hname : "account-".toList = ['a', 'c', 'c', 'o', 'u', 'n', 't', '-'] := by decide
      rw [hname] at hc
      fin_cases hc <;> decide
    · have hdigits : (toString n).toList = Nat.toDigits 10 n := by
        rw [Nat.toString_eq_ofList_toDigits, String.toList_ofList]
      rw [hdigits] at hc
      exact not_isJsSpace_of_isDigit (Nat.isDigit_of_mem_toDigits (by decide) (by decide) hc)

/-- The account is in a keystore under the key. -/
def World.Holding (w : World) (key : String) (a : Account) : Prop :=
  ∃ p, w.storage key = some (.keystore ⟨p, a⟩)

/-- A slot holds the account with the id. -/
def World.HoldsAccount (w : World) (accountId : String) : Prop :=
  ∃ key a, w.Holding key a ∧ a.accountId = accountId

/-- What always holds: keystores lie in slots, and no two of them are of one account. -/
structure Sound (w : World) : Prop where
  entries : ∀ e ∈ w.registry, IsSlot e.id
  keystores : ∀ key a, w.Holding key a → IsSlot key
  apart : ∀ key key' a b, w.Holding key a → w.Holding key' b → key ≠ key' →
    a.accountId ≠ b.accountId

/-! ## What a call may add -/

/-- Nothing is there but what was, and what is new: keystores, by their keys and accounts, and
slots. -/
structure Grew (w₀ : World) (new : String → String → Prop) (w : World) : Prop where
  keystores : ∀ key a, w.Holding key a → w₀.Holding key a ∨ new key a.accountId
  entries : ∀ e ∈ w.registry, (∃ e' ∈ w₀.registry, e'.id = e.id) ∨ ∃ accountId, new e.id accountId

/-- Neither a keystore nor a registry. -/
structure Value.Plain (v : Value) : Prop where
  keystore : ∀ envelope, v ≠ .keystore envelope
  registry : ∀ entries, v ≠ .registry entries

theorem plain_phrase (envelope : Sealed String String) : (Value.phrase envelope).Plain :=
  ⟨nofun, nofun⟩

theorem plain_flag (b : Bool) : (Value.flag b).Plain := ⟨nofun, nofun⟩

theorem plain_text (s : String) : (Value.text s).Plain := ⟨nofun, nofun⟩

section Grew

variable {w₀ w : World} {new : String → String → Prop}

theorem Grew.refl (w : World) (new : String → String → Prop) : Grew w new w :=
  ⟨fun _ _ h => .inl h, fun e he => .inl ⟨e, he, rfl⟩⟩

theorem registry_congr {w' : World} (h : w'.storage registryKey = w.storage registryKey) :
    w'.registry = w.registry := by
  unfold registry
  rw [h]

/-- A registry that is not one has no slots. -/
theorem registry_of_plain {v : Value} (h : w.storage registryKey = some v) (hv : v.Plain) :
    w.registry = [] := by
  unfold registry
  rw [h]
  cases v with
  | registry entries => exact absurd rfl (hv.registry entries)
  | keystore _ => rfl
  | phrase _ => rfl
  | flag _ => rfl
  | text _ => rfl

section

variable (h : Grew w₀ new w)
include h

/-- What is stored is as it was, or is neither. -/
theorem Grew.plainly {w' : World}
    (hstorage : ∀ key, w'.storage key = w.storage key ∨ w'.storage key = none ∨
      ∃ v, w'.storage key = some v ∧ v.Plain) : Grew w₀ new w' := by
  refine ⟨?_, ?_⟩
  · rintro key a ⟨p, hp⟩
    rcases hstorage key with hsame | hnone | ⟨v, hv, hplain⟩
    · exact h.keystores key a ⟨p, hsame ▸ hp⟩
    · exact nomatch hnone.symm.trans hp
    · exact absurd (some_inj.1 (hv.symm.trans hp)) (hplain.keystore _)
  · intro e he
    rcases hstorage registryKey with hsame | hnone | ⟨v, hv, hplain⟩
    · rw [registry_congr hsame] at he
      exact h.entries e he
    · unfold registry at he
      rw [hnone] at he
      exact nomatch he
    · rw [registry_of_plain hv hplain] at he
      exact nomatch he

theorem Grew.congr {w' : World} (hstorage : w'.storage = w.storage) :
    Grew w₀ new w' := h.plainly fun _ => .inl (by rw [hstorage])

theorem Grew.put (key : String) {v : Value} (hv : v.Plain) :
    Grew w₀ new (w.put key v) := by
  refine h.plainly fun k => ?_
  rw [put_storage]
  split
  · exact .inr (.inr ⟨v, rfl, hv⟩)
  · exact .inl rfl

theorem Grew.del (key : String) : Grew w₀ new (w.del key) := by
  refine h.plainly fun k => ?_
  rw [del_storage]
  split
  · exact .inr (.inl rfl)
  · exact .inl rfl

theorem Grew.keystore {slot : String} (p : String) {a : Account}
    (hnew : new slot a.accountId) (hslot : slot ≠ registryKey) :
    Grew w₀ new (w.put slot (.keystore ⟨p, a⟩)) := by
  refine ⟨?_, ?_⟩
  · rintro key b ⟨q, hq⟩
    rw [put_storage] at hq
    by_cases hkey : key = slot
    · rw [if_pos hkey] at hq
      obtain ⟨-, rfl⟩ := Sealed.mk.inj (Value.keystore.inj (some_inj.1 hq))
      exact .inr (hkey ▸ hnew)
    · rw [if_neg hkey] at hq
      exact h.keystores key b ⟨q, hq⟩
  · intro e he
    rw [registry_congr (w := w) (if_neg hslot.symm)] at he
    exact h.entries e he

theorem Grew.register {entries : List Entry}
    (hentries : ∀ e ∈ entries, (∃ e' ∈ w.registry, e'.id = e.id) ∨ ∃ accountId, new e.id accountId) :
    Grew w₀ new (w.put registryKey (.registry entries)) := by
  refine ⟨?_, ?_⟩
  · rintro key a ⟨p, hp⟩
    rw [put_storage] at hp
    by_cases hkey : key = registryKey
    · rw [if_pos hkey] at hp
      exact nomatch hp
    · rw [if_neg hkey] at hp
      exact h.keystores key a ⟨p, hp⟩
  · intro e he
    have he' : e ∈ entries := he
    rcases hentries e he' with ⟨e', hmem, hid⟩ | hnew
    · rw [← hid]
      exact h.entries e' hmem
    · exact .inr hnew

end

/-! ### The calls -/

theorem mem_registered {id label : String} {entries : List Entry} {e : Entry}
    (he : e ∈ registered id label entries) : (∃ e' ∈ entries, e'.id = e.id) ∨ e.id = id := by
  unfold registered at he
  dsimp only at he
  split at he
  · obtain ⟨e', hmem, rfl⟩ := mem_map.1 he
    refine .inl ⟨e', hmem, ?_⟩
    split <;> rfl
  · rcases mem_append.1 he with he | he
    · exact .inl ⟨e, he, rfl⟩
    · rw [mem_singleton.1 he]
      exact .inr rfl

theorem mem_hinted {id hint : String} {entries : List Entry} {e : Entry}
    (he : e ∈ hinted id hint entries) : ∃ e' ∈ entries, e'.id = e.id := by
  obtain ⟨e', hmem, rfl⟩ := mem_map.1 he
  refine ⟨e', hmem, ?_⟩
  split <;> rfl

theorem grew_addAccount {id : String} (label : String) (hnew : ∃ accountId, new (trim id) accountId) :
    Keeps (Grew w₀ new) (addAccount id label) fun _ => True := by
  unfold addAccount
  refine keeps_called (keeps_of_wp fun w h => wp_awaited ?_ h h h)
  split
  · exact wp_throw h
  · show wp (exec (await _)) _ _ _ w
    have hput : Grew w₀ new (w.put registryKey (.registry (registered (trim id) label w.registry))) := by
      refine h.register fun e he => ?_
      rcases mem_registered he with hold | hid
      · exact .inl hold
      · rw [hid]
        exact .inr hnew
    rw [exec_await]
    exact wp_await ⟨hput, trivial⟩ h hput h

theorem grew_setAccountIdHint (id hint : String) :
    Keeps (Grew w₀ new) (setAccountIdHint id hint) fun _ => True := by
  unfold setAccountIdHint
  refine keeps_called (keeps_of_wp fun w h => wp_awaited ?_ h h h)
  dsimp only
  split
  · exact wp_pure ⟨h, trivial⟩
  · show wp (exec (await _)) _ _ _ w
    have hput : Grew w₀ new (w.put registryKey (.registry (hinted (trim id) hint w.registry))) :=
      h.register fun e he => .inl (mem_hinted he)
    rw [exec_await]
    exact wp_await ⟨hput, trivial⟩ h hput h

theorem grew_removeAccount (id : String) :
    Keeps (Grew w₀ new) (removeAccount id) fun _ => True := by
  unfold removeAccount
  refine keeps_called (keeps_of_wp fun w h => wp_awaited ?_ h h h)
  split
  · exact wp_throw h
  · show wp (exec (await _)) _ _ _ w
    have hput : Grew w₀ new (w.put registryKey (.registry (unregistered (trim id) w.registry))) :=
      h.register fun e he => .inl ⟨e, mem_of_mem_filter he, rfl⟩
    rw [exec_await]
    exact wp_await ⟨hput, trivial⟩ h hput h

theorem grew_await {α : Type} {f : World → α × World} (h : ∀ w, (f w).2.storage = w.storage) :
    Keeps (Grew w₀ new) (Task.await f) fun _ => True :=
  keeps_await fun w hw => hw.congr (h w)

theorem grew_modify {f : World → World} (h : ∀ w, (f w).storage = w.storage) :
    Keeps (Grew w₀ new) (Task.modify f) fun _ => True :=
  Task.keeps_modify fun w hw => hw.congr (h w)

theorem grew_listAccounts : Keeps (Grew w₀ new) listAccounts fun _ => True :=
  keeps_called (grew_await fun _ => rfl)

theorem grew_clearKeystore (key : String) : Keeps (Grew w₀ new) (clearKeystore key) fun _ => True :=
  keeps_await fun _ h => h.del key

theorem grew_unlockKeystoreAccount (password key : String) :
    Keeps (Grew w₀ new) (unlockKeystoreAccount password key) fun _ => True :=
  keeps_bind (grew_await fun _ => rfl) fun _ _ =>
    Keeps.mono (keeps_compute _) fun _ _ => trivial

theorem grew_checkRecovery (sdk : Sdk) (storeKey password : String) (a : Account) :
    Keeps (Grew w₀ new) (checkRecovery sdk storeKey password a) fun _ => True := by
  unfold checkRecovery
  refine Task.keeps_bind (grew_await fun _ => rfl) fun has _ => ?_
  split
  · refine keeps_bind (grew_await fun _ => rfl) fun envelope _ => ?_
    refine keeps_bind (keeps_compute _) fun mnemonic _ => ?_
    refine keeps_bind (keeps_compute _) fun id _ => ?_
    split
    · exact keeps_failed
    · exact Task.keeps_pure trivial
  · exact Task.keeps_pure trivial

theorem grew_unlock (sdk : Sdk) (uid : Option String) (q : String) :
    Keeps (Grew w₀ new) (unlock sdk uid q) fun _ => True := by
  unfold unlock
  dsimp only
  split
  · exact keeps_failed
  · refine keeps_got fun w => ?_
    refine keeps_bind (Q := fun _ => True) ?_ fun isLocalOnly _ => ?_
    · exact keeps_called (Task.keeps_tryCatch (grew_await fun _ => rfl) (Task.keeps_pure trivial))
    · refine Task.keeps_bind (grew_await fun _ => rfl) fun envelope _ => ?_
      cases envelope with
      | none => exact keeps_bind (grew_modify fun _ => rfl) fun _ _ => keeps_failed
      | some envelope =>
        refine keeps_bind (grew_modify fun _ => rfl) fun _ _ => keeps_tryCatch ?_ ?_
        · refine keeps_bind (grew_unlockKeystoreAccount _ _) fun a _ => ?_
          refine keeps_bind (grew_checkRecovery _ _ _ _) fun _ _ => ?_
          refine keeps_bind (grew_modify fun _ => rfl) fun _ _ => ?_
          refine keeps_bind (keeps_halfway (fun _ h => h.congr rfl)
            (grew_setAccountIdHint _ _)) fun _ _ => ?_
          exact Task.keeps_bind (grew_modify fun _ => rfl) fun _ _ => Task.keeps_pure trivial
        · exact keeps_bind (grew_modify fun _ => rfl) fun _ _ => keeps_failed

theorem grew_cleanup (storeKey : String) (recovery registryAdded : Bool) :
    Keeps (Grew w₀ new) (cleanupFailedBrowserAccount storeKey recovery registryAdded)
      fun _ => True := by
  have clears : ∀ key, Keeps (Grew w₀ new) (tryCatch (pure ()) (clearKeystore key))
      fun _ => True := fun key =>
    Task.keeps_tryCatch (grew_clearKeystore key) (Task.keeps_pure trivial)
  have unregisters : Keeps (Grew w₀ new) (if registryAdded = true then
      tryCatch (pure ()) (removeAccount storeKey) else pure ()) fun _ => True := by
    split
    · exact Task.keeps_tryCatch (grew_removeAccount _) (Task.keeps_pure trivial)
    · exact Task.keeps_pure trivial
  unfold cleanupFailedBrowserAccount
  refine keeps_called (keeps_bind (clears _) fun _ _ => ?_)
  dsimp only
  split
  · exact keeps_bind (clears _) fun _ _ => unregisters
  · exact unregisters

theorem grew_orCleanUp {α : Type} {t : Task World α} {Q : α → Prop} (storeKey : String)
    (recovery registryAdded : Bool) (ht : Keeps (Grew w₀ new) t Q) :
    Keeps (Grew w₀ new)
      (orCleanUp (cleanupFailedBrowserAccount storeKey recovery registryAdded) t) Q :=
  keeps_tryCatch ht
    (keeps_bind (grew_cleanup storeKey recovery registryAdded) fun _ _ => keeps_failed)

/-- What comes after the slot is made. -/
theorem grew_unlockNew (sdk : Sdk) (storeKey password : String) :
    Keeps (Grew w₀ new) (do
      let result ← Task.called (unlock sdk (some storeKey) password)
      refreshAccountList
      pure result) fun _ => True :=
  Task.keeps_bind (keeps_called (grew_unlock sdk _ _)) fun _ _ =>
    Task.keeps_bind (Task.keeps_bind grew_listAccounts fun _ _ => grew_modify fun _ => rfl)
      fun _ _ => Task.keeps_pure trivial

/-- A keystore is put in a slot, and the slot in the registry. -/
theorem grew_store {slot : String} (hslot : IsSlot slot) (p name : String) {a : Account}
    (hnew : new slot a.accountId) :
    Keeps (Grew w₀ new) (do
      createKeystoreAccount p (keystoreKey slot) a
      addAccount slot name) fun _ => True := by
  refine keeps_bind (keeps_await fun w h => ?_) fun _ _ => ?_
  · rw [hslot.keystoreKey]
    exact h.keystore p hnew (key_ne_registryKey hslot .keystore ∘ hslot.keystoreKey.trans)
  · refine grew_addAccount name ⟨a.accountId, ?_⟩
    rw [hslot.trim]
    exact hnew

end Grew

section Calls

variable {sdk : Sdk} {w : World} {new : String → String → Prop}

/-- Every end of a run of the call is the state it started in, grown. -/
abbrev Grows {α : Type} (t : Task World α) (new : String → String → Prop) (w : World) : Prop :=
  wp (exec t) (fun _ => Grew w new) (Grew w new) (Grew w new) w

theorem grows_of_keeps {α : Type} {t : Task World α} {Q : α → Prop}
    (h : Keeps (Grew w new) t Q) : Grows t new w :=
  wp_imp (h.wp (Grew.refl w new)) (fun _ _ h => h.1)

/-- A new slot, and what is done with it. -/
theorem grows_then {α β : Type} {t : Task World α} {k : α → Task World β} (ht : Grows t new w)
    (hk : ∀ a, Keeps (Grew w new) (k a) fun _ => True) : Grows (t >>= k) new w :=
  wp_seq ht fun a _ hs =>
    wp_imp ((hk a).wp hs) (fun _ _ h => h.1)

theorem grows_createAccount (call : CreateCall)
    (hnew : ∀ id, sdk.accountIdOf call.mnemonic = some id →
      new (newStoreKey w.registry call.nowMs) id.1) : Grows (createAccount sdk call) new w := by
  refine grows_then ?_ fun storeKey => grew_unlockNew sdk storeKey call.password
  have hw := Grew.refl w new
  unfold createSlot
  split
  · exact wp_throw hw
  · refine wp_listed ?_ hw hw
    have hslot := isSlot_newStoreKey w.registry call.nowMs
    generalize newStoreKey w.registry call.nowMs = slot at hslot hnew ⊢
    refine grows_of_keeps (Q := fun _ => True) ?_
    refine Task.keeps_bind (grew_await fun _ => rfl) fun has _ => ?_
    split
    · exact keeps_failed
    · refine Task.keeps_bind (keeps_compute _) fun mnemonic hmnemonic => ?_
      obtain rfl := some_inj.1 hmnemonic
      refine keeps_bind (keeps_compute _) fun id hid => ?_
      refine keeps_bind (keeps_compute _) fun envelope henvelope => ?_
      obtain rfl := some_inj.1 henvelope
      refine keeps_bind (keeps_await fun _ h => h.put _ (plain_phrase _)) fun _ _ => ?_
      refine keeps_bind (grew_orCleanUp _ _ _ (grew_store hslot _ _ (hnew id hid)))
        fun _ _ => ?_
      dsimp only
      split
      · exact Task.keeps_bind (keeps_called (Task.keeps_tryCatch
          (keeps_await fun _ h => h.put _ (plain_flag true)) (Task.keeps_pure trivial)))
          fun _ _ => Task.keeps_pure trivial
      · exact Task.keeps_pure trivial

theorem grew_persistLinkedDevice {w₀ : World} {slot : String} (hslot : IsSlot slot)
    (password name : String) (delegation : Option Account)
    (hnew : ∀ a, delegation = some a → new slot a.accountId) :
    Keeps (Grew w₀ new) (persistLinkedDevice slot password name delegation) fun _ => True := by
  cases delegation with
  | none => exact keeps_failed
  | some a =>
    refine keeps_bind (grew_orCleanUp _ _ _ (grew_store hslot _ _ (hnew a rfl))) fun _ _ => ?_
    refine keeps_bind (grew_orCleanUp _ _ _ (grew_setAccountIdHint _ _)) fun _ _ => ?_
    exact Task.keeps_pure trivial

theorem grows_linkDevice (call : LinkCall)
    (hnew : ∀ a, call.ceremony.delegation = some a →
      new (newStoreKey w.registry call.nowMs) a.accountId) : Grows (linkDevice sdk call) new w := by
  refine grows_then ?_ fun storeKey => grew_unlockNew sdk storeKey call.password
  have hw := Grew.refl w new
  unfold linkSlot
  split
  · exact wp_throw hw
  · refine wp_listed ?_ hw hw
    have hslot := isSlot_newStoreKey w.registry call.nowMs
    generalize newStoreKey w.registry call.nowMs = slot at hslot hnew ⊢
    refine grows_of_keeps (Q := fun _ => True) ?_
    refine Task.keeps_bind (grew_await fun _ => rfl) fun has _ => ?_
    split
    · exact keeps_failed
    · refine Task.keeps_bind (Q := fun _ => True) (Task.keeps_tryCatch ?_ ?_) fun linked _ => ?_
      · refine keeps_called (keeps_bind (keeps_compute _) fun _ _ => ?_)
        split
        · refine keeps_bind (keeps_called
            (grew_persistLinkedDevice hslot _ _ _ hnew)) fun _ _ => ?_
          exact Task.keeps_bind (keeps_compute _) fun _ _ => Task.keeps_pure trivial
        · exact Task.keeps_bind (keeps_compute _) fun _ _ => Task.keeps_pure trivial
      · -- the ceremony failed
        refine keeps_bind (grew_await fun _ => rfl) fun stored _ => ?_
        split
        · exact keeps_bind (grew_cleanup _ _ _) fun _ _ => keeps_failed
        · exact keeps_failed
      · split
        · exact Task.keeps_pure trivial
        · exact keeps_failed

/-- Restoring goes on past the registry only if no slot there is known to hold the account. -/
theorem grows_restoreWithMnemonic (call : RestoreCall)
    (hnew : ∀ id, sdk.accountIdOf call.mnemonic = some id →
      ¬w.registry.any (fun e => e.accountIdHint = some id.1) →
      new (newStoreKey w.registry call.nowMs) id.1) : Grows (restoreWithMnemonic sdk call) new w := by
  refine grows_then ?_ fun storeKey => grew_unlockNew sdk storeKey call.newPassword
  have hw := Grew.refl w new
  unfold restoreSlot
  dsimp only
  split
  · exact wp_throw hw
  · refine wp_computed (fun id hid => wp_listed ?_ hw hw) hw hw
    split
    · exact wp_throw hw
    · rename_i hhint
      have hnew' := hnew id hid hhint
      have hslot := isSlot_newStoreKey w.registry call.nowMs
      generalize newStoreKey w.registry call.nowMs = slot at hslot hnew' ⊢
      refine grows_of_keeps (Q := fun _ => True) ?_
      refine Task.keeps_bind (grew_await fun _ => rfl) fun has _ => ?_
      split
      · exact keeps_failed
      · refine Task.keeps_bind (keeps_compute _) fun envelope henvelope => ?_
        obtain rfl := some_inj.1 henvelope
        refine keeps_bind (keeps_await fun _ h => h.put _ (plain_phrase _)) fun _ _ => ?_
        refine keeps_bind (grew_orCleanUp _ _ _ (grew_store hslot _ _ hnew')) fun _ _ => ?_
        refine keeps_bind (grew_orCleanUp _ _ _ (grew_setAccountIdHint _ _)) fun _ _ => ?_
        exact Task.keeps_pure trivial

end Calls

/-! ## What deleting a slot may change -/

/-- The slot is being deleted: what is not of it is as it was, but for the database of its
account. -/
structure Purging (w₀ : World) (slot database : String) (w : World) : Prop where
  others : ∀ key, key ≠ registryKey → (∀ part : Part, key ≠ part.key slot) →
    w.storage key = w₀.storage key
  parts : ∀ key, w.storage key = w₀.storage key ∨ w.storage key = none ∨ key = registryKey
  registry : w.storage registryKey = w₀.storage registryKey ∨
    w.storage registryKey = some (.registry (unregistered slot w₀.registry))
  databases : ∀ name, name ≠ database → w.databases name = w₀.databases name

section Purging

variable {w₀ w : World} {slot database : String}

theorem Purging.refl (w : World) (slot database : String) : Purging w slot database w :=
  ⟨fun _ _ _ => rfl, fun _ => .inl rfl, .inl rfl, fun _ _ => rfl⟩

section

variable (h : Purging w₀ slot database w)
include h

theorem Purging.del (hslot : IsSlot slot) (part : Part) :
    Purging w₀ slot database (w.del (part.key slot)) := by
  refine ⟨fun key hregistry hparts => ?_, fun key => ?_, ?_, h.databases⟩
  · rw [del_storage, if_neg (hparts part)]
    exact h.others key hregistry hparts
  · rw [del_storage]
    split
    · exact .inr (.inl rfl)
    · exact h.parts key
  · rw [del_storage, if_neg (key_ne_registryKey hslot part).symm]
    exact h.registry

theorem Purging.cleared :
    Purging w₀ slot database
      { w with databases := fun name => if name = database then [] else w.databases name } :=
  ⟨h.others, h.parts, h.registry, fun name hname => (if_neg hname).trans (h.databases name hname)⟩

theorem Purging.paged {w' : World} (hstorage : w'.storage = w.storage)
    (hdatabases : w'.databases = w.databases) : Purging w₀ slot database w' := by
  refine ⟨?_, ?_, ?_, ?_⟩
  · rw [hstorage]
    exact h.others
  · rw [hstorage]
    exact h.parts
  · rw [hstorage]
    exact h.registry
  · rw [hdatabases]
    exact h.databases

end

theorem unregistered_unregistered (id : String) (entries : List Entry) :
    unregistered id (unregistered id entries) = unregistered id entries := by
  unfold unregistered
  rw [List.filter_filter]
  simp only [Bool.and_self]

theorem Purging.unregister (h : Purging w₀ slot database w) :
    Purging w₀ slot database (w.put registryKey (.registry (unregistered slot w.registry))) := by
  refine ⟨fun key hregistry hparts => ?_, fun key => ?_, .inr ?_, h.databases⟩
  · rw [put_storage, if_neg hregistry]
    exact h.others key hregistry hparts
  · rw [put_storage]
    split
    · rename_i hkey
      exact .inr (.inr hkey)
    · exact h.parts key
  · rw [put_storage, if_pos rfl]
    rcases h.registry with hsame | hgone
    · rw [registry_congr hsame]
    · have hentries : w.registry = unregistered slot w₀.registry := by
        unfold World.registry
        rw [hgone]
        rfl
      rw [hentries, unregistered_unregistered]

/-- It adds nothing. -/
theorem Purging.grew (h : Purging w₀ slot database w) : Grew w₀ (fun _ _ => False) w := by
  refine ⟨?_, ?_⟩
  · rintro key a ⟨p, hp⟩
    refine .inl ⟨p, ?_⟩
    rcases h.parts key with hsame | hnone | rfl
    · rwa [← hsame]
    · exact nomatch hnone.symm.trans hp
    · rcases h.registry with hsame | hgone
      · rwa [← hsame]
      · exact nomatch hgone.symm.trans hp
  · intro e he
    rcases h.registry with hsame | hgone
    · rw [registry_congr hsame] at he
      exact .inl ⟨e, he, rfl⟩
    · unfold World.registry at he
      rw [hgone] at he
      exact .inl ⟨e, mem_of_mem_filter he, rfl⟩

theorem purging_removeAccount (hslot : IsSlot slot) :
    Keeps (Purging w₀ slot database) (removeAccount slot) fun _ => True := by
  unfold removeAccount
  refine keeps_called (keeps_of_wp fun w h => wp_awaited ?_ h h h)
  split
  · exact wp_throw h
  · show wp (exec (await _)) _ _ _ w
    have hput : Purging w₀ slot database
        (w.put registryKey (.registry (unregistered (trim slot) w.registry))) := by
      rw [hslot.trim]
      exact h.unregister
    rw [exec_await]
    exact wp_await ⟨hput, trivial⟩ h hput h

theorem purging_deleteAccountMetadata (hslot : IsSlot slot) :
    Keeps (Purging w₀ slot database) (deleteAccountMetadata slot) fun _ => True := by
  unfold deleteAccountMetadata
  refine keeps_called ?_
  split
  · exact Task.keeps_pure trivial
  · rw [hslot.trim]
    refine keeps_bind (keeps_await fun _ h => h.del hslot .avatar) fun _ _ => ?_
    refine keeps_bind (keeps_await fun _ h => h.del hslot .avatarData) fun _ _ => ?_
    exact keeps_await fun _ h => h.del hslot .localOnly

theorem purging_modify {f : World → World} (hstorage : ∀ w, (f w).storage = w.storage)
    (hdatabases : ∀ w, (f w).databases = w.databases) :
    Keeps (Purging w₀ slot database) (Task.modify f) fun _ => True :=
  Task.keeps_modify fun w h => h.paged (hstorage w) (hdatabases w)

end Purging

/-- Nothing is changed, or a slot that held an account is being deleted. -/
def Purged (w₀ : World) (slot : String) (w : World) : Prop :=
  w = w₀ ∨ ∃ a, w₀.Holding slot a ∧ IsSlot slot ∧
    Purging w₀ slot (browserChatRuntimeDbName a.accountId) w

/-- **Deleting a slot.** The keystore is opened first, and nothing is deleted before. -/
theorem purgeAccount_purged (uid : Option String) (password : String) {w : World} (h : Sound w) :
    wp (exec (purgeAccount uid password))
      (fun _ => Purged w (resolveStoreKey uid w.session)) (Purged w (resolveStoreKey uid w.session))
      (Purged w (resolveStoreKey uid w.session)) w := by
  have hw : Purged w (resolveStoreKey uid w.session) w := .inl rfl
  unfold purgeAccount
  split
  · exact wp_throw hw
  · refine wp_got ?_
    have hne := resolveStoreKey_ne_empty uid w.session
    generalize resolveStoreKey uid w.session = slot at hw hne ⊢
    refine wp_seq (wp_mono (unlockKeystoreAccount_spec password (keystoreKey slot) w)
      (fun _ _ h => h) (fun _ hs => hs ▸ hw) fun _ hs => hs ▸ hw) ?_
    rintro a s ⟨rfl, ha⟩
    obtain ⟨v, hv, hopen⟩ := bind_eq_some_iff.1 ha
    obtain rfl := openAccount_eq_some hopen
    have hkey : keystoreKey slot = slot := if_neg hne
    have hmain : s.Holding slot a := ⟨password, by
      rw [← hkey]
      exact (filter_eq_some_iff.1 hv).1⟩
    have hslot : IsSlot slot := h.keystores slot a hmain
    have hpurging : ∀ t, Purging s slot (browserChatRuntimeDbName a.accountId) t → Purged s slot t :=
      fun t ht => .inr ⟨a, hmain, hslot, ht⟩
    suffices hkeeps : Task.Keeps (Purging s slot (browserChatRuntimeDbName a.accountId)) _
        fun _ => True from
      wp_mono (hkeeps.wp (Purging.refl s slot _)) (fun _ t ht => hpurging t ht.1) hpurging
        hpurging
    refine keeps_bind (keeps_await fun _ h => h.cleared) fun _ _ => ?_
    refine keeps_bind (keeps_await fun _ h => h.del hslot .keystore) fun _ _ => ?_
    refine keeps_bind (keeps_await fun _ h => h.del hslot .recovery) fun _ _ => ?_
    refine Task.keeps_bind (purging_deleteAccountMetadata hslot) fun _ _ => ?_
    refine keeps_bind (purging_removeAccount hslot) fun _ _ => ?_
    refine keeps_bind (purging_modify (fun _ => rfl) fun _ => rfl) fun _ _ => ?_
    refine keeps_bind (keeps_halfway (fun _ h => h.paged rfl rfl)
      (keeps_called (keeps_await fun _ h => h))) fun accounts _ => ?_
    refine keeps_bind (purging_modify (fun _ => rfl) fun _ => rfl) fun _ _ => ?_
    dsimp only
    split
    · exact Task.keeps_bind (purging_modify (fun _ => rfl) fun _ => rfl) fun _ _ =>
        Task.keeps_pure trivial
    · exact Task.keeps_bind (purging_modify (fun _ => rfl) fun _ => rfl) fun _ _ =>
        Task.keeps_pure trivial

/-! ## Runs -/

/-- What else happens in the browser leaves the keystores and the registry alone. -/
structure Elsewhere (w w' : World) : Prop where
  storage : ∀ key, w'.storage key = w.storage key ∨ ∃ s, w'.storage key = some (.text s)

/-- A call of the service, or something else: a runtime writes, a slot is selected, an avatar is set,
the page is loaded again. -/
inductive SlotEvent where
  | createAccount (call : CreateCall)
  | linkDevice (call : LinkCall)
  | restoreWithMnemonic (call : RestoreCall)
  | purgeAccount (accountId : Option String) (password : String)
  | unlock (accountId : Option String) (password : String)
  | elsewhere (f : World → World) (h : ∀ w, Elsewhere w (f w))

section Runs

variable (sdk : Sdk)

def SlotEvent.task : SlotEvent → Task World Unit
  | createAccount call => do
    let _ ← Browser.createAccount sdk call
    pure ()
  | linkDevice call => do
    let _ ← Browser.linkDevice sdk call
    pure ()
  | restoreWithMnemonic call => do
    let _ ← Browser.restoreWithMnemonic sdk call
    pure ()
  | purgeAccount accountId password => do
    let _ ← Browser.purgeAccount accountId password
    pure ()
  | unlock accountId password => do
    let _ ← Browser.unlock sdk accountId password
    pure ()
  | elsewhere f _ => modify f

/-- One event after another, with what becomes of its awaits. -/
def slotStep (w : World) (e : SlotEvent × List Fate) : World :=
  (exec (e.1.task sdk) e.2 w).state

/-- A slot is made only for an account that no slot holds. Restoring asks the registry. -/
def Admitted (w : World) : SlotEvent → Prop
  | .createAccount call =>
    ∀ id, sdk.accountIdOf call.mnemonic = some id → ¬w.HoldsAccount id.1
  | .linkDevice call =>
    ∀ a, call.ceremony.delegation = some a → ¬w.HoldsAccount a.accountId
  | .restoreWithMnemonic call =>
    ∀ id, sdk.accountIdOf call.mnemonic = some id →
      ¬w.registry.any (fun e => e.accountIdHint = some id.1) → ¬w.HoldsAccount id.1
  | _ => True

/-- **Slots are apart.** Two slots of the registry share no key of the storage, and no database. -/
structure SlotsApart (w : World) : Prop where
  keys : ∀ e ∈ w.registry, ∀ e' ∈ w.registry, e.id ≠ e'.id → ∀ part part' : Part,
    part.key e.id ≠ part'.key e'.id
  databases : ∀ e ∈ w.registry, ∀ e' ∈ w.registry, e.id ≠ e'.id → ∀ a b,
    w.Holding (keystoreKey e.id) a → w.Holding (keystoreKey e'.id) b →
    browserChatRuntimeDbName a.accountId ≠ browserChatRuntimeDbName b.accountId

/-- What an account reads of its messages. -/
def World.messagesOf (w : World) (a : Account) : List String :=
  (w.databases (browserChatRuntimeDbName a.accountId)).filterMap (Sealed.opened · a.storageSecret)

/-- The slot is as it was: its keystore, its recovery envelope and its metadata, its entry in the
registry and its database. So it unlocks as it did, and reads the messages it did. -/
structure SlotKept (w w' : World) (slot : String) : Prop where
  parts : ∀ part : Part, w'.storage (part.key slot) = w.storage (part.key slot)
  entry : ∀ e, e.id = slot → (e ∈ w'.registry ↔ e ∈ w.registry)
  database : ∀ a, w.Holding slot a → w'.databases (browserChatRuntimeDbName a.accountId) =
    w.databases (browserChatRuntimeDbName a.accountId)
  unlocks : ∀ q a, OpensTo sdk w'.storage slot q a ↔ OpensTo sdk w.storage slot q a
  messages : ∀ a, w.Holding slot a → w'.messagesOf a = w.messagesOf a

/-- Deleting a slot spares the others. -/
def PurgeSpares (w : World) (e : SlotEvent × List Fate) : Prop :=
  match e.1 with
  | .purgeAccount accountId _ => ∀ entry ∈ w.registry,
    entry.id ≠ resolveStoreKey accountId w.session → SlotKept sdk w (slotStep sdk w e) entry.id
  | _ => True

end Runs

section Law

variable {sdk : Sdk} {w w' : World}

/-- No slot but one may be new, and it is for an account that no slot holds. -/
theorem Sound.grew (h : Sound w) {slot accountId : String} (hslot : IsSlot slot)
    (hfree : ¬w.HoldsAccount accountId)
    (hgrew : Grew w (fun key id => key = slot ∧ id = accountId) w') : Sound w' := by
  refine ⟨?_, ?_, ?_⟩
  · intro e he
    rcases hgrew.entries e he with ⟨e', hmem, hid⟩ | ⟨-, rfl, -⟩
    · rw [← hid]
      exact h.entries e' hmem
    · exact hslot
  · intro key a ha
    rcases hgrew.keystores key a ha with hold | ⟨rfl, -⟩
    · exact h.keystores key a hold
    · exact hslot
  · intro key key' a b ha hb hne
    rcases hgrew.keystores key a ha with hold | ⟨rfl, ha⟩
    · rcases hgrew.keystores key' b hb with hold' | ⟨-, hb⟩
      · exact h.apart key key' a b hold hold' hne
      · rw [hb]
        exact fun heq => hfree ⟨key, a, hold, heq⟩
    · rcases hgrew.keystores key' b hb with hold' | ⟨hkey, -⟩
      · rw [ha]
        exact fun heq => hfree ⟨key', b, hold', heq.symm⟩
      · exact absurd hkey.symm hne

/-- Where nothing is new. -/
theorem Sound.shrank (h : Sound w) (hgrew : Grew w (fun _ _ => False) w') : Sound w' := by
  refine ⟨?_, ?_, ?_⟩
  · intro e he
    rcases hgrew.entries e he with ⟨e', hmem, hid⟩ | ⟨-, hfalse⟩
    · rw [← hid]
      exact h.entries e' hmem
    · exact hfalse.elim
  · exact fun key a ha => h.keystores key a ((hgrew.keystores key a ha).resolve_right id)
  · exact fun key key' a b ha hb =>
      h.apart key key' a b ((hgrew.keystores key a ha).resolve_right id)
        ((hgrew.keystores key' b hb).resolve_right id)

/-- A call, and nothing after it. -/
theorem Grows.state {α : Type} {t : Task World α} {new : String → String → Prop}
    (h : Grows t new w) (fates : List Fate) :
    Grew w new (exec (t >>= fun _ => pure ()) fates w).state := by
  have hunit : Grows (t >>= fun _ => pure ()) new w :=
    grows_then h fun _ => Task.keeps_pure trivial
  exact wp_ending hunit fates

theorem purged_state (h : Sound w) (uid : Option String) (password : String) (fates : List Fate) :
    Purged w (resolveStoreKey uid w.session)
      (slotStep sdk w (.purgeAccount uid password, fates)) := by
  have hunit : wp (exec (purgeAccount uid password >>= fun _ => pure ()))
      (fun _ => Purged w (resolveStoreKey uid w.session)) (Purged w (resolveStoreKey uid w.session))
      (Purged w (resolveStoreKey uid w.session)) w :=
    wp_seq (purgeAccount_purged uid password h) fun _ _ hs => wp_pure hs
  exact wp_ending hunit fates

theorem Purged.grew {slot : String} (h : Purged w slot w') : Grew w (fun _ _ => False) w' := by
  rcases h with rfl | ⟨a, -, -, hpurging⟩
  · exact Grew.refl w' _
  · exact hpurging.grew

/-- **One step.** -/
theorem sound_slotStep (e : SlotEvent × List Fate) (h : Sound w) (hadmitted : Admitted sdk w e.1) :
    Sound (slotStep sdk w e) := by
  obtain ⟨e, fates⟩ := e
  cases e with
  | createAccount call =>
    cases hid : sdk.accountIdOf call.mnemonic with
    | none =>
      refine h.shrank (Grows.state (grows_createAccount call fun id hid' => ?_) fates)
      exact nomatch hid.symm.trans hid'
    | some id =>
      refine h.grew (isSlot_newStoreKey w.registry call.nowMs) (hadmitted id hid)
        (Grows.state (grows_createAccount call fun id' hid' => ⟨rfl, ?_⟩) fates)
      rw [some_inj.1 (hid'.symm.trans hid)]
  | linkDevice call =>
    cases ha : call.ceremony.delegation with
    | none =>
      refine h.shrank (Grows.state (grows_linkDevice call fun a ha' => ?_) fates)
      exact nomatch ha.symm.trans ha'
    | some a =>
      refine h.grew (isSlot_newStoreKey w.registry call.nowMs) (hadmitted a ha)
        (Grows.state (grows_linkDevice call fun a' ha' => ⟨rfl, ?_⟩) fates)
      rw [some_inj.1 (ha'.symm.trans ha)]
  | restoreWithMnemonic call =>
    by_cases hnew : ∃ id, sdk.accountIdOf call.mnemonic = some id ∧
        ¬w.registry.any (fun e => e.accountIdHint = some id.1)
    · obtain ⟨id, hid, hhint⟩ := hnew
      refine h.grew (isSlot_newStoreKey w.registry call.nowMs) (hadmitted id hid hhint)
        (Grows.state (grows_restoreWithMnemonic call fun id' hid' _ => ⟨rfl, ?_⟩) fates)
      rw [some_inj.1 (hid'.symm.trans hid)]
    · refine h.shrank (Grows.state (grows_restoreWithMnemonic call fun id hid hhint => ?_) fates)
      exact hnew ⟨id, hid, hhint⟩
  | purgeAccount uid password => exact h.shrank (purged_state h uid password fates).grew
  | unlock uid password => exact h.shrank (Grows.state (grows_of_keeps (grew_unlock sdk _ _)) fates)
  | elsewhere f hf =>
    refine h.shrank ((Grew.refl w _).plainly fun key => ?_)
    rcases (hf w).storage key with hsame | ⟨s, hs⟩
    · exact .inl hsame
    · exact .inr (.inr ⟨.text s, hs, plain_text s⟩)

theorem Sound.slotsApart (h : Sound w) : SlotsApart w := by
  refine ⟨?_, ?_⟩
  · intro e he e' he' hne part part' hkey
    exact hne (key_inj (h.entries e he) (h.entries e' he') hkey).2
  · intro e he e' he' hne a b ha hb hname
    rw [(h.entries e he).keystoreKey] at ha
    rw [(h.entries e' he').keystoreKey] at hb
    have htrim := (String.append_right_inj _).1 hname
    rw [a.accountId_isId.1, b.accountId_isId.1] at htrim
    exact h.apart e.id e'.id a b ha hb hne htrim

theorem envelope_congr {key : String} (h : w'.storage key = w.storage key) :
    w'.envelope key = w.envelope key := by
  unfold envelope
  rw [h]

/-- Unlocking a slot looks at its two envelopes alone. -/
theorem unlocksTo_congr {slot : String}
    (hmain : w'.storage (keystoreKey slot) = w.storage (keystoreKey slot))
    (hrecovery : w'.storage (recoveryKey slot) = w.storage (recoveryKey slot)) (q : String)
    (a : Account) : UnlocksTo sdk w' slot q a ↔ UnlocksTo sdk w slot q a := by
  constructor
  · rintro ⟨hnonblank, hkeystore, hphrase⟩
    rw [envelope_congr hmain] at hkeystore
    rw [envelope_congr hrecovery] at hphrase
    exact ⟨hnonblank, hkeystore, hphrase⟩
  · rintro ⟨hnonblank, hkeystore, hphrase⟩
    rw [← envelope_congr hmain] at hkeystore
    rw [← envelope_congr hrecovery] at hphrase
    exact ⟨hnonblank, hkeystore, hphrase⟩

theorem Sound.purgeSpares (h : Sound w) (e : SlotEvent × List Fate) : PurgeSpares sdk w e := by
  obtain ⟨e, fates⟩ := e
  cases e with
  | purgeAccount uid password =>
    intro entry hentry hne
    have hslot := h.entries entry hentry
    have hpurged : Purged w (resolveStoreKey uid w.session)
        (slotStep sdk w (.purgeAccount uid password, fates)) := purged_state h uid password fates
    generalize slotStep sdk w (.purgeAccount uid password, fates) = w' at hpurged ⊢
    generalize resolveStoreKey uid w.session = slot at hne hpurged
    rcases hpurged with rfl | ⟨a, ha, hslot', hpurging⟩
    · exact ⟨fun _ => rfl, fun _ _ => .rfl, fun _ _ => rfl, fun _ _ => .rfl, fun _ _ => rfl⟩
    · have hparts : ∀ part : Part, w'.storage (part.key entry.id) = w.storage (part.key entry.id) :=
        fun part => hpurging.others _ (key_ne_registryKey hslot part) fun part' hkey =>
          hne (key_inj hslot hslot' hkey).2
      have hdatabase : ∀ b, w.Holding entry.id b →
          w'.databases (browserChatRuntimeDbName b.accountId) =
            w.databases (browserChatRuntimeDbName b.accountId) := by
        intro b hb
        refine hpurging.databases _ fun hname => ?_
        have htrim := (String.append_right_inj _).1 hname
        rw [a.accountId_isId.1, b.accountId_isId.1] at htrim
        exact h.apart entry.id slot b a hb ha hne htrim
      refine ⟨hparts, fun e he => ?_, hdatabase, fun q b => ?_, fun b hb => ?_⟩
      · rcases hpurging.registry with hsame | hgone
        · rw [registry_congr hsame]
        · unfold registry at *
          rw [hgone]
          show e ∈ unregistered slot _ ↔ _
          unfold unregistered
          rw [mem_filter]
          exact and_iff_left (decide_eq_true (he ▸ hne))
      · exact (opensTo_iff hslot.ne_empty).trans
          ((unlocksTo_congr (hparts .keystore) (hparts .recovery) q b).trans
            (opensTo_iff hslot.ne_empty).symm)
      · unfold messagesOf
        rw [hdatabase b hb]
  | _ => trivial

end Law

/-! ## One account in two slots -/

section Twice

/-- Ann's account on a device that is linked to it. -/
def annLinked : Account where
  accountId := "rez:acct:ann"
  deviceId := "rez:dev:2"
  identityPrivateKeyB64 := none
  devicePrivateKeyB64 := "dev 2"
  accountId_isId := ann_isId
  deviceId_isId := by decide

/-- A browser that was never used. -/
def blankWorld : World :=
  { annWorld with
    storage := fun _ => none
    session := ⟨.noKeystore, none, none, [], none⟩ }

def annCreate : SlotEvent :=
  .createAccount ⟨"password0", "Ann", false, 1, "ann phrase",
    ⟨⟨"rez:dev:1", dev_1_isId⟩, "dev 1"⟩⟩

/-- Her runtime stores a message. -/
def annWrites (w : World) : World :=
  { w with databases := fun name =>
      if name = browserChatRuntimeDbName "rez:acct:ann" then
        ⟨("rez:chat-server:storage:v1", "ann phrase"), "hello"⟩ :: w.databases name
      else w.databases name }

/-- The same browser is linked to another device of hers. -/
def annLink : SlotEvent :=
  .linkDevice ⟨"code", "password0", "Ann", 7, ⟨true, some annLinked, true⟩⟩

def annTwice : List (SlotEvent × List Fate) :=
  [(annCreate, []), (.elsewhere annWrites fun _ => ⟨fun _ => .inl rfl⟩, []), (annLink, [])]

end Twice

end RezChat.Browser
