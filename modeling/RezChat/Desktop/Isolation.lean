/-
Whose identity the vault hands on.

The vault is to hand on the identity of the account that is unlocked: the one that its phrase
gives, with the override of its row, or the one in its delegated keystore. An unlock derives it, or
takes the one that was kept aside while an account was created or imported, and does not ask which
account that was. So it takes another account's where the unlock that the identity was kept for
failed, or where two calls overlap (`stash_of_another`); a lock in between does not clear it.

In every run in which no unlock finds an identity that was kept for another account, the identity
that is handed on is the active account's own (`run_ownIdentity`).
-/
import RezChat.Desktop.Backup

set_option autoImplicit false

namespace RezChat.Desktop

open Inbox (trim trimmed trim_trim)
open Option OrdMap Vault AccountRow RezChat.Task Pool List

/-! ## Runs -/

/-- A call of the vault, with what the operating system does in the course of it. -/
inductive VaultCall where
  | unlock (safe : SafeStorage) (call : UnlockCall)
  | createAccount (safe : SafeStorage) (call : CreateCall)
  | createDelegatedAccount (safe : SafeStorage) (call : CreateDelegatedCall)
  | importBackup (safe : SafeStorage) (call : ImportCall)

/-- What happens to a vault: it is called, a call goes on, it is locked, by the user or by one of
its timers, time passes, or the process dies. -/
inductive VaultAct where
  | call (c : VaultCall)
  | resume (i : Nat) (r : Response)
  | lock
  | tick (clockMs : Int)
  | crash

section Steps

variable {β : Type} (sdk : Sdk) (aead : BackupAead β)

/-- A call. What it returns is of no matter here. -/
def VaultCall.task : VaultCall → Task Vault Unit
  | .unlock safe call => do
    let _ ← Vault.unlock sdk safe call
    pure ()
  | .createAccount safe call => do
    let _ ← Vault.createAccount sdk safe call
    pure ()
  | .createDelegatedAccount safe call => do
    let _ ← Vault.createDelegatedAccount sdk safe call
    pure ()
  | .importBackup safe call => do
    let _ ← Vault.importBackup sdk safe aead call
    pure ()

/-- What a crash leaves. -/
def Vault.restart (v : Vault) : Vault :=
  { v with activeAccount := none, pendingChatServerIdentity := none }

def VaultAct.toStep : VaultAct → Pool.Step Vault
  | .call c => .start fun _ => c.task sdk aead
  | .resume i r => .resume i r
  | .lock => .elsewhere Vault.lock
  | .tick clockMs => .elsewhere fun v => { v with clockMs := clockMs }
  | .crash => .crash

/-- One step of a vault. -/
def vaultStep (p : Pool Vault) (a : VaultAct) : Pool Vault :=
  step Vault.restart p (a.toStep sdk aead)

/-- A vault after a run. -/
def vaultAfter (clockMs : Int) (acts : List VaultAct) : Vault :=
  (Runs.run (vaultStep sdk aead) (idle (Vault.fresh clockMs)) acts).state

end Steps

/-! ## The law -/

section Law

variable (sdk : Sdk)

/-- The identity is in the row's delegated keystore, or is derived from its phrase. -/
def AccountRow.Owns (row : AccountRow) (identity : ChatServerIdentity) : Prop :=
  if row.keystoreEnvelope.content.hasAdminRoot = false then
    identity = row.keystoreEnvelope.content.delegatedIdentity
  else
    ∃ envelope, row.mnemonicEnvelope = some envelope ∧
      identity = deriveChatServerIdentity sdk envelope.content (row.dhOverride sdk)

/-- Whatever identity the vault exposes is the active account's own. -/
def Vault.ExposesOwn (v : Vault) : Prop :=
  ∀ identity, v.getChatServerIdentity = some identity →
    ∃ active row, v.activeAccount = some active ∧ v.rows.get? active.accountId = some row ∧
      row.Owns sdk identity

end Law

/-! ## What is sealed in a row stays -/

/-- What is sealed in two rows is the same. -/
structure AccountRow.SameSecrets (row row' : AccountRow) : Prop where
  accountId : row'.accountId = row.accountId
  keystore : row'.keystoreEnvelope = row.keystoreEnvelope
  mnemonic : row'.mnemonicEnvelope = row.mnemonicEnvelope
  identityDh : row'.identityDhOverride = row.identityDhOverride

theorem AccountRow.SameSecrets.trans {row row' row'' : AccountRow} (h : row.SameSecrets row')
    (h' : row'.SameSecrets row'') : row.SameSecrets row'' :=
  ⟨h'.accountId.trans h.accountId, h'.keystore.trans h.keystore, h'.mnemonic.trans h.mnemonic,
    h'.identityDh.trans h.identityDh⟩

theorem AccountRow.SameSecrets.owns {sdk : Sdk} {row row' : AccountRow} (h : row.SameSecrets row')
    {identity : ChatServerIdentity} (ho : row.Owns sdk identity) : row'.Owns sdk identity := by
  rw [Owns, dhOverride] at ho ⊢
  rw [h.keystore, h.mnemonic, h.identityDh]
  exact ho

/-- Accounts stay, with what is sealed in their rows, and a mix-up is not forgotten. -/
structure Grown (v v' : Vault) : Prop where
  rows : ∀ k row, v.rows.get? k = some row → ∃ row', v'.rows.get? k = some row' ∧ row.SameSecrets row'
  mixedUp : v'.mixedUp = false → v.mixedUp = false

theorem Grown.refl (v : Vault) : Grown v v := ⟨fun _ row h => ⟨row, h, rfl, rfl, rfl, rfl⟩, id⟩

theorem Grown.trans {v v' v'' : Vault} (h : Grown v v') (h' : Grown v' v'') : Grown v v'' := by
  refine ⟨fun k row hk => ?_, fun hquiet => h.mixedUp (h'.mixedUp hquiet)⟩
  obtain ⟨row', hk', hsame⟩ := h.rows k row hk
  obtain ⟨row'', hk'', hsame'⟩ := h'.rows k row' hk'
  exact ⟨row'', hk'', hsame.trans hsame'⟩

/-- A row is under the id that its keystore says. -/
def AccountRow.Genuine (row : AccountRow) (k : String) : Prop :=
  row.accountId = k ∧ row.keystoreEnvelope.content.accountId = k

/-- The account has a row of its own that the identity belongs to. -/
def Vault.Backs (sdk : Sdk) (v : Vault) (accountId : String) (identity : ChatServerIdentity) : Prop :=
  ∃ row, v.rows.get? accountId = some row ∧ row.Owns sdk identity

theorem Grown.backs {sdk : Sdk} {v v' : Vault} (h : Grown v v') {accountId : String}
    {identity : ChatServerIdentity} (hb : v.Backs sdk accountId identity) :
    v'.Backs sdk accountId identity := by
  obtain ⟨row, hrow, howns⟩ := hb
  obtain ⟨row', hrow', hsame⟩ := h.rows accountId row hrow
  exact ⟨row', hrow', hsame.owns howns⟩

/-- What always holds of a vault. -/
structure Vault.Sound (sdk : Sdk) (v : Vault) : Prop where
  rows : ∀ k row, v.rows.get? k = some row → row.Genuine k
  pending : ∀ p, v.pendingChatServerIdentity = some p → v.Backs sdk p.forAccount p.identity
  active : v.mixedUp = false → ∀ a identity, v.activeAccount = some a →
    a.chatServerIdentity = some identity → v.Backs sdk a.accountId identity

def vaultDiscipline (sdk : Sdk) : Discipline Vault where
  inv := Sound sdk
  rely _ := Grown
  refl _ := Grown.refl
  trans := Grown.trans

section Calls

variable {sdk : Sdk} {safe : SafeStorage} {i : Nat} {v₀ v : Vault} {α γ : Type}

/-- The segment so far is settled. -/
abbrev VaultSettled (sdk : Sdk) (i : Nat) : Vault → Vault → Prop := (vaultDiscipline sdk).Settled i

/-- The call is safe, and returns with `R`. -/
abbrev SafeVaultCall (sdk : Sdk) (i : Nat) (R : α → Vault → Prop) (t : Task Vault α)
    (v₀ v : Vault) : Prop :=
  Safe (vaultDiscipline sdk) i (fun a v₀ v => VaultSettled sdk i v₀ v ∧ R a v)
    (VaultSettled sdk i) t v₀ v

theorem settled_grown (h : VaultSettled sdk i v₀ v) {v' : Vault} (hs : v'.Sound sdk)
    (hg : Grown v v') : VaultSettled sdk i v₀ v' :=
  ⟨hs, fun j hj => (h.2 j hj).trans hg⟩

theorem vaultSettled_refl (h : v.Sound sdk) : VaultSettled sdk i v v :=
  Discipline.settled_refl h

variable {R : γ → Vault → Prop}

/-- A computation, and what follows it. -/
theorem safe_computed {x : Option α} {k : α → Task Vault γ}
    (h : VaultSettled sdk i v₀ v)
    (hk : ∀ a, x = some a → ∀ v', v'.Sound sdk → Grown v v' → SafeVaultCall sdk i R (k a) v' v') :
    SafeVaultCall sdk i R (compute x >>= k) v₀ v :=
  safe_bind (safe_compute h hk fun _ hs => vaultSettled_refl hs)

theorem safe_modified {f : Vault → Vault} {k : Unit → Task Vault γ}
    (hk : SafeVaultCall sdk i R (k ()) v₀ (f v)) :
    SafeVaultCall sdk i R (modify f >>= k) v₀ v := hk

theorem safe_got {k : Vault → Task Vault γ}
    (hk : SafeVaultCall sdk i R (k v) v₀ v) : SafeVaultCall sdk i R (get >>= k) v₀ v := hk

/-- A part of a call, and what follows it. -/
theorem safe_seq {K : α → Vault → Prop} {t : Task Vault α}
    {k : α → Task Vault γ} (ht : SafeVaultCall sdk i K t v₀ v)
    (hk : ∀ a v₀ v, VaultSettled sdk i v₀ v → K a v → SafeVaultCall sdk i R (k a) v₀ v) :
    SafeVaultCall sdk i R (t >>= k) v₀ v :=
  safe_bind (Safe.mono (fun a v₀ v h => hk a v₀ v h.1 h.2) (fun _ _ h => h) ht)

/-! ### Writes -/

theorem sound_lock (h : v.Sound sdk) : v.lock.Sound sdk :=
  ⟨h.rows, h.pending, fun _ _ _ ha => by cases ha⟩

theorem grown_lock (v : Vault) : Grown v v.lock := ⟨(Grown.refl v).rows, id⟩

/-- What touches neither the rows nor what is in memory. -/
theorem updateRow_kept (h : v.Sound sdk) {f : AccountRow → AccountRow}
    (hf : ∀ row : AccountRow, row.SameSecrets (f row)) (accountId : String) :
    (v.updateRow accountId f).Sound sdk ∧ Grown v (v.updateRow accountId f) := by
  rw [updateRow]
  cases hrow : v.rows.get? accountId with
  | none => exact ⟨h, Grown.refl v⟩
  | some row =>
    have hsame : row.SameSecrets { f row with updatedAtMs := v.clockMs } :=
      ⟨(hf row).accountId, (hf row).keystore, (hf row).mnemonic, (hf row).identityDh⟩
    have hgrown : Grown v
        { v with rows := v.rows.set accountId { f row with updatedAtMs := v.clockMs } } := by
      refine ⟨fun k row' hk => ?_, id⟩
      by_cases hka : k = accountId
      · rw [hka, hrow] at hk
        rw [hka, ← some_inj.1 hk]
        exact ⟨_, get?_set_self _ _ _, hsame⟩
      · exact ⟨row', (get?_set_of_ne _ _ hka).trans hk, rfl, rfl, rfl, rfl⟩
    refine ⟨⟨fun k row' hk => ?_, ?_, ?_⟩, hgrown⟩
    · rw [get?_set] at hk
      by_cases hka : k = accountId
      · rw [if_pos hka] at hk
        have hgenuine := h.rows accountId row hrow
        rw [← some_inj.1 hk, hka]
        refine ⟨hsame.accountId.trans hgenuine.1, ?_⟩
        rw [hsame.keystore]
        exact hgenuine.2
      · rw [if_neg hka] at hk
        exact h.rows k row' hk
    · exact fun p hp => hgrown.backs (h.pending p hp)
    · exact fun hquiet a identity ha hid => hgrown.backs (h.active hquiet a identity ha hid)

/-! ### Unlocking -/

/-- The account of a row that was read is still there, with what was sealed in it. -/
structure Held (row : AccountRow) (v : Vault) : Prop where
  kept : ∃ row', v.rows.get? row.accountId = some row' ∧ row.SameSecrets row'
  named : row.keystoreEnvelope.content.accountId = row.accountId

variable {row : AccountRow}

theorem Held.grown {v' : Vault} (h : Held row v) (hg : Grown v v') :
    Held row v' := by
  obtain ⟨row', hrow', hsame⟩ := h.kept
  obtain ⟨row'', hrow'', hsame'⟩ := hg.rows _ row' hrow'
  exact ⟨⟨row'', hrow'', hsame.trans hsame'⟩, h.named⟩

/-- What the row owns, its account has. -/
theorem Held.backs (h : Held row v) {identity : ChatServerIdentity}
    (ho : row.Owns sdk identity) : v.Backs sdk row.accountId identity := by
  obtain ⟨row', hrow', hsame⟩ := h.kept
  exact ⟨row', hrow', hsame.owns ho⟩

/-- What is picked by going through the rows is one of them. -/
theorem mem_of_foldl_pick {f : Option AccountRow → AccountRow → Option AccountRow}
    (hf : ∀ best r, f best r = some r ∨ f best r = best) :
    ∀ {l : List AccountRow} {best : Option AccountRow},
      l.foldl f best = some row → row ∈ l ∨ best = some row
  | [], _, h => .inr h
  | r :: l, best, h => by
    rcases mem_of_foldl_pick hf (l := l) h with hmem | hlast
    · exact .inl (mem_cons_of_mem r hmem)
    · rcases hf best r with hpick | hkeep
      · rw [some_inj.1 (hlast.symm.trans hpick)]
        exact .inl mem_cons_self
      · exact .inr (hkeep.symm.trans hlast)

theorem latestRow_mem {rows : OrdMap String AccountRow}
    (h : latestRow rows = some row) : row ∈ rows.values := by
  refine (mem_of_foldl_pick (fun best r => ?_) h).resolve_right fun hnone => by cases hnone
  cases best with
  | none => exact .inl rfl
  | some b =>
    dsimp only
    split_ifs
    · exact .inl rfl
    · exact .inr rfl

theorem loadAccountRow_held (h : v.Sound sdk) {accountId : Option String}
    (hload : v.loadAccountRow accountId = some row) : Held row v := by
  have hheld (k : String) (hk : v.rows.get? k = some row) : Held row v := by
    obtain ⟨hid, hnamed⟩ := h.rows k row hk
    refine ⟨⟨row, ?_, rfl, rfl, rfl, rfl⟩, hnamed.trans hid.symm⟩
    rw [hid]
    exact hk
  rw [loadAccountRow] at hload
  split_ifs at hload with hgiven
  · exact hheld _ hload
  · obtain ⟨k, hk⟩ := mem_values_iff.1 (latestRow_mem hload)
    exact hheld k hk

theorem safe_healLegacyOsWrap {appDataKey : String}
    (h : VaultSettled sdk i v₀ v) (hheld : Held row v) :
    SafeVaultCall sdk i (fun _ => Held row) (healLegacyOsWrap safe row appDataKey) v₀ v := by
  rw [healLegacyOsWrap]
  by_cases hlegacy : safe.isLegacyWrap row.safeWrappedAppKeyB64 = true
  · rw [if_pos hlegacy]
    refine safe_computed h fun freshWrap _ v' hv' hg => ?_
    obtain ⟨hs, hg'⟩ := updateRow_kept hv'
      (f := fun row => { row with safeWrappedAppKeyB64 := freshWrap, safeWrappedPasswordB64 := none })
      (fun row => ⟨rfl, rfl, rfl, rfl⟩) row.accountId
    exact ⟨settled_grown (vaultSettled_refl hv') hs hg', (hheld.grown hg).grown hg'⟩
  · rw [if_neg hlegacy]
    exact ⟨h, hheld⟩

/-- The identity that an unlock hands on is the account's own, unless one was mixed up. -/
def HandsOn (sdk : Sdk) (accountId : String) (identity : Option ChatServerIdentity) (v : Vault) :
    Prop :=
  v.mixedUp = false → ∀ own, identity = some own → v.Backs sdk accountId own

/-- The identity that is kept aside is dropped, or taken. -/
theorem pending_dropped (h : v.Sound sdk) {mixedUp : Bool} (hmixed : mixedUp = false → v.mixedUp = false) :
    Sound sdk { v with pendingChatServerIdentity := none, mixedUp := mixedUp } ∧
      Grown v { v with pendingChatServerIdentity := none, mixedUp := mixedUp } := by
  refine ⟨⟨h.rows, fun p hp => ?_, fun hquiet => h.active (hmixed hquiet)⟩, ?_⟩
  · cases hp
  · exact ⟨(Grown.refl v).rows, hmixed⟩

theorem safe_resolve {password appDataKey : String} (h : VaultSettled sdk i v₀ v)
    (hheld : Held row v) :
    SafeVaultCall sdk i (HandsOn sdk row.accountId)
      (resolveChatServerIdentity sdk password row row.keystoreEnvelope.content appDataKey)
      v₀ v := by
  rw [resolveChatServerIdentity]
  by_cases hdelegated : row.keystoreEnvelope.content.hasAdminRoot = false
  · rw [if_pos hdelegated]
    have hdropped : v.mixedUp = false → v.mixedUp = false := id
    obtain ⟨hs, hg⟩ := pending_dropped h.1 hdropped
    refine ⟨settled_grown h hs hg, fun _ own hown => (hheld.grown hg).backs ?_⟩
    rw [Owns, if_pos hdelegated]
    exact (some_inj.1 hown).symm
  · rw [if_neg hdelegated]
    refine safe_got ?_
    cases hpending : v.pendingChatServerIdentity.filter fun p => p.identity.accountId ≠ "" with
    | some pending =>
      -- the identity that is kept aside is taken: it is the account's if it was kept for it
      simp only
      have hmixed : (v.mixedUp ||
          decide (pending.forAccount ≠ row.keystoreEnvelope.content.accountId)) = false →
          v.mixedUp = false := fun hquiet => (Bool.or_eq_false_iff.1 hquiet).1
      obtain ⟨hs, hg⟩ := pending_dropped h.1 hmixed
      refine ⟨settled_grown h hs hg, fun hquiet own hown => ?_⟩
      have hfor : pending.forAccount = row.accountId := by
        have hsame := (Bool.or_eq_false_iff.1 hquiet).2
        rw [decide_eq_false_iff_not, not_not] at hsame
        exact hsame.trans hheld.named
      have hbacks := h.1.pending pending (filter_eq_some_iff.1 hpending).1
      rw [hfor, some_inj.1 hown] at hbacks
      exact hg.backs hbacks
    | none =>
      simp only
      cases henv : row.mnemonicEnvelope with
      | none =>
        simp only
        refine ⟨h, fun _ own hown => ?_⟩
        cases hown
      | some envelope =>
        -- it is derived from what was sealed in the row that was read
        simp only
        refine safe_computed h fun mnemonic hmnemonic v₁ hv₁ hg₁ => ?_
        refine safe_computed (vaultSettled_refl hv₁) fun dh hdh v₂ hv₂ hg₂ => ?_
        refine ⟨vaultSettled_refl hv₂, fun _ own hown => ?_⟩
        refine ((hheld.grown hg₁).grown hg₂).backs ?_
        rw [Owns, if_neg hdelegated]
        refine ⟨envelope, henv, ?_⟩
        rw [decryptMnemonic_content hmnemonic,
          ← decryptIdentityDhOverride_eq hdh]
        exact (some_inj.1 hown).symm

theorem healNameHint_kept (h : v.Sound sdk) (unlocked : KeystorePayload) :
    (healNameHint unlocked v).Sound sdk ∧ Grown v (healNameHint unlocked v) := by
  rw [healNameHint]
  split_ifs with hseed
  · cases hrow : v.rows.get? unlocked.accountId with
    | none => exact ⟨h, Grown.refl v⟩
    | some row =>
      simp only
      split_ifs with hlegacy
      · exact updateRow_kept h
          (f := fun row => { row with profileNameHint := trim unlocked.profileName })
          (fun row => ⟨rfl, rfl, rfl, rfl⟩) unlocked.accountId
      · exact ⟨h, Grown.refl v⟩
  · exact ⟨h, Grown.refl v⟩

/-- An account becomes the active one. -/
theorem sound_activated (h : v.Sound sdk) {active : ActiveAccount}
    (hown : HandsOn sdk active.accountId active.chatServerIdentity v) :
    Sound sdk { v with activeAccount := some active } := by
  refine ⟨h.rows, h.pending, fun hquiet a identity ha hid => ?_⟩
  rw [← some_inj.1 ha] at hid ⊢
  exact hown hquiet identity hid

theorem safe_rememberPassword {accountId password : String} (h : VaultSettled sdk i v₀ v) :
    SafeVaultCall sdk i (fun _ _ => True) (rememberPassword safe accountId password) v₀ v := by
  refine safe_tryCatch ?_
  refine Safe.mono (fun _ _ _ h => h) (fun _ _ h => ⟨h, trivial⟩) ?_ (E := VaultSettled sdk i)
  refine safe_computed h fun _ _ v₁ hv₁ _ => ?_
  cases hwrap : safe.encryptString password with
  | error e => exact vaultSettled_refl hv₁
  | ok wrapped =>
    obtain ⟨hs, hg⟩ := updateRow_kept hv₁
      (f := fun row => { row with safeWrappedPasswordB64 := some wrapped })
      (fun row => ⟨rfl, rfl, rfl, rfl⟩) accountId
    exact ⟨settled_grown (vaultSettled_refl hv₁) hs hg, trivial⟩

theorem safe_unlock (call : UnlockCall) (h : VaultSettled sdk i v₀ v) :
    SafeVaultCall sdk i (fun _ _ => True) (unlock sdk safe call) v₀ v := by
  rw [unlock]
  by_cases hempty : call.password = ""
  · rw [if_pos hempty]
    exact h
  rw [if_neg hempty]
  refine safe_got ?_
  cases hload : v.loadAccountRow call.accountId with
  | none => exact h
  | some row =>
    have hheld : Held row v := loadAccountRow_held h.1 hload
    refine safe_computed h fun unlocked hunlocked v₁ hv₁ hg₁ => ?_
    rw [← Sealed.content_of_opened hunlocked]
    refine safe_computed (vaultSettled_refl hv₁) fun appDataKey _ v₂ hv₂ hg₂ => ?_
    refine safe_seq (safe_healLegacyOsWrap (vaultSettled_refl hv₂) ((hheld.grown hg₁).grown hg₂))
      fun _ v₃ v₄ h₄ hheld₄ => ?_
    refine safe_modified ?_
    have h₅ := settled_grown h₄ (sound_lock h₄.1) (grown_lock v₄)
    refine safe_seq (safe_resolve h₅ (hheld₄.grown (grown_lock v₄))) fun identity v₅ v₆ h₆ hown => ?_
    refine safe_modified ?_
    rw [← hheld.named] at hown
    let active := activeAccountOf row row.keystoreEnvelope.content appDataKey identity
    have hactive : Sound sdk { v₆ with activeAccount := some active } :=
      sound_activated h₆.1 hown
    obtain ⟨hs, hg⟩ := healNameHint_kept hactive row.keystoreEnvelope.content
    have h₇ := settled_grown h₆ hs ⟨hg.rows, hg.mixedUp⟩
    by_cases henable : call.enableDeviceUnlock = true
    · rw [if_pos henable]
      exact safe_seq (safe_rememberPassword h₇) fun _ _ _ h₈ _ => ⟨h₈, trivial⟩
    · rw [if_neg henable]
      exact ⟨h₇, trivial⟩

/-! ### Creating and importing -/

/-- An account is added. -/
theorem addRow_kept (h : v.Sound sdk) (hnew : v.rows.get? row.accountId = none)
    (hnamed : row.keystoreEnvelope.content.accountId = row.accountId) :
    (addRow row v).Sound sdk ∧ Grown v (addRow row v) ∧ Held row (addRow row v) := by
  have hgrown : Grown v (addRow row v) := by
    refine ⟨fun k row' hk => ⟨row', ?_, rfl, rfl, rfl, rfl⟩, id⟩
    have hne : k ≠ row.accountId := by
      intro hk'
      rw [hk', hnew] at hk
      cases hk
    exact (get?_set_of_ne _ _ hne).trans hk
  refine ⟨⟨fun k row' hk => ?_, ?_, ?_⟩, hgrown, ?_, hnamed⟩
  · rw [addRow, get?_set] at hk
    by_cases hka : k = row.accountId
    · rw [if_pos hka] at hk
      rw [← some_inj.1 hk, hka]
      exact ⟨rfl, hnamed⟩
    · rw [if_neg hka] at hk
      exact h.rows k row' hk
  · exact fun p hp => hgrown.backs (h.pending p hp)
  · exact fun hquiet a identity ha hid => hgrown.backs (h.active hquiet a identity ha hid)
  · exact ⟨_, get?_set_self _ _ _, rfl, rfl, rfl, rfl⟩

theorem safe_insertRow {insertThrows : Bool} (h : VaultSettled sdk i v₀ v)
    (hnamed : row.keystoreEnvelope.content.accountId = row.accountId) :
    SafeVaultCall sdk i (fun _ => Held row) (insertRow insertThrows row) v₀ v := by
  rw [insertRow]
  refine safe_got ?_
  by_cases hrefused : insertThrows = true ∨ v.rows.has row.accountId = true
  · rw [if_pos hrefused]
    exact h
  · rw [if_neg hrefused]
    rw [not_or] at hrefused
    have hnew : v.rows.get? row.accountId = none := by
      simpa [has] using hrefused.2
    obtain ⟨hs, hg, hheld⟩ := addRow_kept h.1 hnew hnamed
    exact ⟨settled_grown h hs hg, hheld⟩

/-- The identity of a row is kept aside for its account, which is unlocked with it. -/
theorem safe_keep_unlock {identity : ChatServerIdentity} {call : UnlockCall}
    (h : VaultSettled sdk i v₀ v) (hheld : Held row v) (hown : row.Owns sdk identity) :
    SafeVaultCall sdk i (fun _ _ => True) (do
      modify (keepIdentity identity row.accountId)
      unlock sdk safe call) v₀ v := by
  refine safe_modified (safe_unlock call (settled_grown h ?_ ⟨(Grown.refl v).rows, id⟩))
  refine ⟨h.1.rows, fun p hp => ?_, h.1.active⟩
  rw [← some_inj.1 hp]
  exact hheld.backs hown

theorem primaryRow_owns {name password mnemonic appDataKey : String} {deviceKeyPair : KeyPair}
    {safeWrappedAppKeyB64 : Option String} {createdAtMs : Int} :
    (primaryRow sdk name password mnemonic appDataKey deviceKeyPair safeWrappedAppKeyB64
      createdAtMs).Owns sdk (sdk.chatServerIdentity mnemonic) := by
  rw [Owns, if_neg (by rintro ⟨⟩)]
  exact ⟨_, rfl, rfl⟩

theorem importedRow_owns {bundle : BackupBundle} {mnemonic password : String}
    {deviceKeyPair : KeyPair} {safeWrappedAppKeyB64 : Option String} {identityDh : Option KeyPair}
    {nowMs : Int} (h : bundleDhKeyPair sdk bundle = some identityDh) :
    (importedRow sdk bundle mnemonic password deviceKeyPair safeWrappedAppKeyB64 identityDh
      nowMs).Owns sdk (deriveChatServerIdentity sdk mnemonic identityDh) := by
  rw [Owns, if_neg (by rintro ⟨⟩)]
  refine ⟨_, rfl, congrArg _ ?_⟩
  rw [dhOverride]
  show identityDh = (identityDh.map _).bind _
  rw [bind_map]
  exact (bundleDhKeyPair_self h).symm

theorem safe_createAccount (call : CreateCall) (h : VaultSettled sdk i v₀ v) :
    SafeVaultCall sdk i (fun _ _ => True) (createAccount sdk safe call) v₀ v := by
  rw [createAccount]
  dsimp only
  split_ifs with hrefused
  · exact h
  cases hmnemonic : call.mnemonicText sdk with
  | none => exact h
  | some mnemonic =>
    refine safe_computed h fun _ _ v₁ hv₁ _ => ?_
    refine safe_computed (vaultSettled_refl hv₁) fun _ _ v₂ hv₂ _ => ?_
    refine safe_computed (vaultSettled_refl hv₂) fun _ _ v₃ hv₃ _ => ?_
    refine safe_computed (vaultSettled_refl hv₃) fun wrap _ v₄ hv₄ _ => ?_
    refine safe_computed (vaultSettled_refl hv₄) fun _ _ v₅ hv₅ _ => ?_
    refine safe_got (safe_seq (safe_insertRow (vaultSettled_refl hv₅) rfl) fun _ _ _ h₆ hheld => ?_)
    exact safe_keep_unlock h₆ hheld primaryRow_owns

theorem safe_createDelegatedAccount (call : CreateDelegatedCall)
    (h : VaultSettled sdk i v₀ v) :
    SafeVaultCall sdk i (fun _ _ => True) (createDelegatedAccount sdk safe call) v₀ v := by
  rw [createDelegatedAccount]
  refine safe_computed h fun _ _ v₁ hv₁ _ => ?_
  refine safe_computed (vaultSettled_refl hv₁) fun _ _ v₂ hv₂ _ => ?_
  refine safe_computed (vaultSettled_refl hv₂) fun wrap _ v₃ hv₃ _ => ?_
  refine safe_got (safe_seq (safe_insertRow (vaultSettled_refl hv₃) rfl) fun _ _ _ h₄ _ => ?_)
  exact safe_unlock _ h₄

theorem safe_importBackup {β : Type} {aead : BackupAead β} (call : ImportCall)
    (h : VaultSettled sdk i v₀ v) :
    SafeVaultCall sdk i (fun _ _ => True) (importBackup sdk safe aead call) v₀ v := by
  rw [importBackup]
  split_ifs with hshort
  · exact h
  cases hfile : call.encryptedBackup.bind BackupEnvelope.fields with
  | none => exact h
  | some file =>
    cases hmnemonic : sdk.normalizeMnemonic call.mnemonic with
    | none => exact h
    | some mnemonic =>
      refine safe_got ?_
      by_cases hthere : v.rows.has file.accountId = true
      · rw [if_pos hthere]
        exact h
      rw [if_neg hthere]
      refine safe_computed h fun _ _ v₁ hv₁ _ => ?_
      by_cases hfingerprint :
        sdk.seedFingerprintB64 (sdk.mnemonicToSeed mnemonic) ≠ file.seedFingerprintB64
      · rw [if_pos hfingerprint]
        exact vaultSettled_refl hv₁
      rw [if_neg hfingerprint]
      refine safe_computed (vaultSettled_refl hv₁) fun bundle _ v₂ hv₂ _ => ?_
      by_cases hbundle : bundle.v ≠ 1 ∨ sdk.isAppDataKey bundle.appDataKeyB64 = false ∨
        sdk.vaultAccountId mnemonic ≠ file.accountId
      · rw [if_pos hbundle]
        exact vaultSettled_refl hv₂
      rw [if_neg hbundle]
      refine safe_computed (vaultSettled_refl hv₂) fun identityDh hdh v₃ hv₃ _ => ?_
      refine safe_computed (vaultSettled_refl hv₃) fun _ _ v₄ hv₄ _ => ?_
      refine safe_computed (vaultSettled_refl hv₄) fun _ _ v₅ hv₅ _ => ?_
      refine safe_computed (vaultSettled_refl hv₅) fun wrap _ v₆ hv₆ _ => ?_
      refine safe_computed (vaultSettled_refl hv₆) fun _ _ v₇ hv₇ _ => ?_
      refine safe_computed (vaultSettled_refl hv₇) fun _ _ v₈ hv₈ _ => ?_
      refine safe_got (safe_seq (safe_insertRow (vaultSettled_refl hv₈) rfl)
        fun _ _ _ h₉ hheld => ?_)
      exact safe_keep_unlock h₉ hheld (importedRow_owns hdh)

end Calls

/-! ## Every run -/

section Run

variable {β : Type} {sdk : Sdk} {aead : BackupAead β}

/-- A call that is safe up to its result is calm without it. -/
theorem calm_of_safe {i : Nat} {v₀ v : Vault} {α : Type} {t : Task Vault α}
    (h : SafeVaultCall sdk i (fun _ _ => True) t v₀ v) :
    (t >>= fun _ => pure ()).Calm (vaultDiscipline sdk) i v₀ v :=
  safe_bind (Safe.mono (fun _ _ _ ha => ha.1) (fun _ _ he => he) h)

theorem VaultAct.allowed (a : VaultAct) : (a.toStep sdk aead).Allowed (vaultDiscipline sdk) := by
  cases a with
  | call c =>
    intro i v hv
    have hsettled : VaultSettled sdk i v v := vaultSettled_refl hv
    cases c with
    | unlock safe call => exact calm_of_safe (safe_unlock call hsettled)
    | createAccount safe call => exact calm_of_safe (safe_createAccount call hsettled)
    | createDelegatedAccount safe call => exact calm_of_safe (safe_createDelegatedAccount call hsettled)
    | importBackup safe call => exact calm_of_safe (safe_importBackup call hsettled)
  | resume i r => exact trivial
  | lock => exact fun v hv => ⟨sound_lock hv, fun _ => grown_lock v⟩
  | tick clockMs =>
    exact fun v hv => ⟨⟨hv.rows, hv.pending, hv.active⟩, fun _ => ⟨(Grown.refl v).rows, id⟩⟩
  | crash => exact trivial

theorem sound_fresh (clockMs : Int) : (fresh clockMs).Sound sdk := by
  refine ⟨fun k row hk => ?_, fun p hp => ?_, fun _ a identity ha => ?_⟩
  · exact absurd hk (by simp [fresh])
  · cases hp
  · cases ha

theorem sound_restart {v : Vault} (h : v.Sound sdk) : v.restart.Sound sdk := by
  refine ⟨h.rows, fun p hp => ?_, fun _ a identity ha => ?_⟩
  · cases hp
  · cases ha

theorem sound_after (clockMs : Int) (acts : List VaultAct) :
    (vaultAfter sdk aead clockMs acts).Sound sdk := by
  have hrun := Runs.run_map (step Vault.restart) (VaultAct.toStep sdk aead)
    (idle (Vault.fresh clockMs)) acts
  rw [show vaultAfter sdk aead clockMs acts = _ from congrArg state hrun.symm]
  refine run_inv (D := vaultDiscipline sdk) (fun v hv => sound_restart hv) (sound_fresh clockMs) _
    fun a ha => ?_
  obtain ⟨act, _, rfl⟩ := mem_map.1 ha
  exact act.allowed

/-- What is exposed of a row's own identity is that identity. -/
theorem owns_exposed {row : AccountRow} {own identity : ChatServerIdentity} {v : Vault}
    {active : ActiveAccount} (ha : v.activeAccount = some active)
    (hown : active.chatServerIdentity = some own) (ho : row.Owns sdk own)
    (h : v.getChatServerIdentity = some identity) : identity = own := by
  rw [getChatServerIdentity, ha, bind_some, hown] at h
  simp only at h
  rw [Owns] at ho
  split_ifs at h ho with hempty hroot hdelegated hdelegated
  · rw [ho] at h ⊢
    exact (some_inj.1 h).symm
  · obtain ⟨envelope, -, rfl⟩ := ho
    exact absurd hroot (by simp)
  · rw [ho] at hroot
    exact absurd rfl hroot
  · obtain ⟨envelope, -, rfl⟩ := ho
    rw [← some_inj.1 h]
    exact deriveChatServerIdentity_exposed sdk _ _

/-- **Whose identity the vault exposes.** In every run in which no unlock took an identity that
was kept aside for another account, however the calls overlap and wherever they fail, the identity
that the vault exposes is the active account's own. -/
theorem run_ownIdentity (clockMs : Int) (acts : List VaultAct)
    (hquiet : (vaultAfter sdk aead clockMs acts).mixedUp = false) :
    (vaultAfter sdk aead clockMs acts).ExposesOwn sdk := by
  intro identity hexposed
  have hsound : (vaultAfter sdk aead clockMs acts).Sound sdk := sound_after clockMs acts
  generalize vaultAfter sdk aead clockMs acts = v at hsound hquiet hexposed ⊢
  cases ha : v.activeAccount with
  | none =>
    rw [Vault.getChatServerIdentity, ha] at hexposed
    cases hexposed
  | some active =>
    cases hown : active.chatServerIdentity with
    | none =>
      rw [Vault.getChatServerIdentity, ha, bind_some, hown] at hexposed
      cases hexposed
    | some own =>
      obtain ⟨row, hrow, ho⟩ := hsound.active hquiet active own ha hown
      refine ⟨active, row, rfl, hrow, ?_⟩
      rw [owns_exposed ha hown ho hexposed]
      exact ho

end Run

/-! ## A run that mixes them up -/

def noBackups : BackupAead String where
  toBase64 := id
  fromBase64 := some
  deriveKey := id
  aeadEncrypt _ _ _ _ := ""
  aeadDecrypt _ _ _ _ := none

/-- An account is created from a phrase. -/
def createFrom (mnemonic : String) : VaultAct :=
  .call (.createAccount noSafeStorage ⟨mnemonic, "password", some mnemonic, ⟨"", ⟨"C", "c"⟩, "key"⟩, false⟩)

/-- A call goes on for some turns. -/
def goesOn (i turns : Nat) : List VaultAct := replicate turns (.resume i .ok)

/-- One account is created. Another one is created, and its unlock fails. Then the first one is
unlocked. -/
def createdAndFailed : List VaultAct :=
  createFrom "ann" :: goesOn 0 14 ++
    createFrom "bob" :: goesOn 1 10 ++
    .resume 1 .throws :: .resume 1 .ok :: .lock ::
    .call (.unlock noSafeStorage ⟨some "ann", "password", false⟩) :: goesOn 2 4

/-- **An identity that was kept for another account**: the vault exposes the second account's
identity while the first one is active. -/
theorem stash_of_another : ¬(vaultAfter plainSdk noBackups 0 createdAndFailed).ExposesOwn plainSdk := by
  intro h
  obtain ⟨active, row, hactive, hrow, howns⟩ := h (plainSdk.chatServerIdentity "bob") rfl
  obtain rfl := some_inj.1 hactive
  obtain rfl := some_inj.1 hrow
  obtain ⟨envelope, henvelope, hidentity⟩ := howns
  obtain rfl := some_inj.1 henvelope
  exact absurd hidentity (by decide)

/-- A run in which the account that was created is locked and unlocked again. -/
def createdAndUnlocked : List VaultAct :=
  createFrom "ann" :: goesOn 0 14 ++
    .lock :: .call (.unlock noSafeStorage ⟨none, "password", false⟩) :: goesOn 1 8

theorem run_ownIdentity_unlocked :
    (vaultAfter plainSdk noBackups 0 createdAndUnlocked).ExposesOwn plainSdk ∧
      (vaultAfter plainSdk noBackups 0 createdAndUnlocked).getChatServerIdentity =
        some (plainSdk.chatServerIdentity "ann") :=
  ⟨run_ownIdentity 0 createdAndUnlocked rfl, rfl⟩

end RezChat.Desktop
