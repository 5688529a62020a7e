/-
What an unlock comes to.

What a password opens in a row is said without the calls (`AccountRow.opens`): the account with its
device, the key of its app data, and the identity that is its own. That is what an unlock makes
active that nothing comes between and that does not fail (`yields_unlock`).
-/
import RezChat.Desktop.Unlock

set_option autoImplicit false

namespace RezChat.Desktop

open Inbox (trim)
open Option Proc RezChat.Task Vault SafeStorage

/-! ## The keychain -/

/-- A keychain that decrypts what it encrypts. Keys of app data have no white space around. -/
structure SafeStorage.Faithful (sdk : Sdk) (safe : SafeStorage) : Prop where
  decrypts : ∀ text wrapped, safe.encryptString text = .ok wrapped →
    safe.decryptString wrapped = .ok text
  keys : ∀ key, sdk.isAppDataKey key = true → trim key = key

/-- A key is left unwrapped, or the keychain wrapped it. -/
theorem SafeStorage.wrapAppDataKey_cases {safe : SafeStorage} {appDataKey : String} {wrap : Option String}
    (h : safe.wrapAppDataKey appDataKey = some wrap) :
    wrap = none ∨ ∃ wrapped, wrap = some wrapped ∧ safe.encryptString appDataKey = .ok wrapped := by
  rw [wrapAppDataKey] at h
  by_cases hdenied : safe.available = false ∨ safe.ensured = false
  · rw [if_pos hdenied] at h
    exact .inl (some_inj.1 h).symm
  · rw [if_neg hdenied] at h
    cases hencrypt : safe.encryptString appDataKey with
    | ok wrapped =>
      rw [hencrypt] at h
      exact .inr ⟨wrapped, (some_inj.1 h).symm, rfl⟩
    | error e =>
      rw [hencrypt] at h
      cases e with
      | keyUnavailable => exact .inl (some_inj.1 h).symm
      | resetRequired => cases h
      | other => cases h

/-- What the keychain wrapped it lets pass, and needs no healing. -/
theorem SafeStorage.Faithful.wrapped {sdk : Sdk} {safe : SafeStorage} (h : safe.Faithful sdk) {appDataKey : String}
    (hkey : sdk.isAppDataKey appDataKey = true) {wrap : Option String}
    (hwrap : safe.wrapAppDataKey appDataKey = some wrap) :
    safe.verifies wrap appDataKey = true ∧ safe.isLegacyWrap wrap = false := by
  have htrim : trim appDataKey = appDataKey := h.keys appDataKey hkey
  rcases wrapAppDataKey_cases hwrap with rfl | ⟨wrapped, rfl, hencrypt⟩
  · cases havailable : safe.available with
    | true => simp [verifies, isLegacyWrap, havailable]
    | false => simp [verifies, isLegacyWrap, havailable]
  · have hdecrypt := h.decrypts appDataKey wrapped hencrypt
    cases havailable : safe.available with
    | true => simp [verifies, isLegacyWrap, havailable, hdecrypt, htrim]
    | false => simp [verifies, isLegacyWrap, havailable]

section Returned

variable {sdk : Sdk} {safe : SafeStorage} {v : Vault} {row : AccountRow}

/-! ## What a row opens to -/

variable {password appDataKey : String} {unlocked : KeystorePayload}

theorem opens_eq
    {identity : Option ChatServerIdentity}
    (hunlocked : row.keystoreEnvelope.opened password = some unlocked)
    (hkey : row.decryptAppDataKey sdk safe password = some appDataKey)
    (hown : row.ownIdentity sdk password unlocked appDataKey = some identity) :
    row.opens sdk safe password = some (activeAccountOf row unlocked appDataKey identity) := by
  rw [AccountRow.opens, hunlocked, bind_some, hkey, bind_some, hown, map_some]

/-- What has to open for a row to open. -/
theorem opens_cases {password : String} {a : ActiveAccount}
    (h : row.opens sdk safe password = some a) :
    ∃ unlocked appDataKey identity, row.keystoreEnvelope.opened password = some unlocked ∧
      row.decryptAppDataKey sdk safe password = some appDataKey ∧
      row.ownIdentity sdk password unlocked appDataKey = some identity ∧
      a = activeAccountOf row unlocked appDataKey identity := by
  obtain ⟨unlocked, hunlocked, h⟩ := bind_eq_some_iff.1 h
  obtain ⟨appDataKey, hkey, h⟩ := bind_eq_some_iff.1 h
  obtain ⟨identity, hown, rfl⟩ := map_eq_some_iff.1 h
  exact ⟨unlocked, appDataKey, identity, hunlocked, hkey, hown, rfl⟩

theorem decryptAppDataKey_isKey
    (h : row.decryptAppDataKey sdk safe password = some appDataKey) :
    sdk.isAppDataKey appDataKey = true := by
  obtain ⟨text, -, htext⟩ := bind_eq_some_iff.1 h
  split_ifs at htext with hboth
  rw [← some_inj.1 htext]
  exact hboth.1

theorem decryptAppDataKey_content
    (h : row.decryptAppDataKey sdk safe password = some appDataKey) :
    row.appKeyEnvelope.content = appDataKey := by
  obtain ⟨text, hopened, htext⟩ := bind_eq_some_iff.1 h
  split_ifs at htext
  rw [← some_inj.1 htext]
  exact Sealed.content_of_opened hopened

@[simp] theorem updateRow_active (accountId : String) (f : AccountRow → AccountRow) :
    (v.updateRow accountId f).activeAccount = v.activeAccount := by
  rw [updateRow]
  cases v.rows.get? accountId with
  | none => rfl
  | some row => rfl

@[simp] theorem healNameHint_active (unlocked : KeystorePayload) :
    (healNameHint unlocked v).activeAccount = v.activeAccount := by
  rw [healNameHint]
  split_ifs with hseed
  · cases v.rows.get? unlocked.accountId with
    | none => rfl
    | some row =>
      simp only
      split_ifs with hhint
      · exact updateRow_active _ _
      · rfl
  · rfl

/-! ## An unlock that does not fail -/

theorem yields_resolve
    {identity : Option ChatServerIdentity}
    (hown : row.ownIdentity sdk password unlocked appDataKey = some identity)
    (hpending : ∀ p, v.pendingChatServerIdentity = some p → identity = some p.identity) :
    ∃ v', Yields (Task.exec (resolveChatServerIdentity sdk password row unlocked
      appDataKey)) v identity v' ∧ v'.rows = v.rows ∧ v'.clockMs = v.clockMs := by
  rw [resolveChatServerIdentity]
  rw [AccountRow.ownIdentity] at hown
  by_cases hdelegated : unlocked.hasAdminRoot = false
  · rw [if_pos hdelegated] at hown ⊢
    rw [← some_inj.1 hown]
    exact ⟨_, yields_modified (yields_pure _ _), rfl, rfl⟩
  · rw [if_neg hdelegated] at hown ⊢
    cases hkept : v.pendingChatServerIdentity.filter fun p => p.identity.accountId ≠ "" with
    | some p =>
      rw [hpending p (filter_eq_some_iff.1 hkept).1]
      refine ⟨takePending p unlocked.accountId v, yields_got ?_, rfl, rfl⟩
      rw [hkept]
      exact yields_modified (yields_pure _ _)
    | none =>
      refine ⟨v, yields_got ?_, rfl, rfl⟩
      rw [hkept]
      cases henv : row.mnemonicEnvelope with
      | none =>
        rw [henv] at hown
        rw [← some_inj.1 hown]
        exact yields_pure _ _
      | some envelope =>
        rw [henv] at hown
        obtain ⟨mnemonic, hmnemonic, hown⟩ := bind_eq_some_iff.1 hown
        obtain ⟨dh, hdh, rfl⟩ := map_eq_some_iff.1 hown
        exact yields_computed hmnemonic (yields_computed hdh (yields_pure _ _))

theorem healNameHint_rows {v' : Vault} (hrows : v'.rows = v.rows)
    (hclock : v'.clockMs = v.clockMs) :
    (healNameHint unlocked v').rows = (healNameHint unlocked v).rows := by
  simp only [healNameHint, updateRow]
  rw [hrows, hclock]
  split_ifs with hseed
  · cases hrow : v.rows.get? unlocked.accountId with
    | none => exact hrows
    | some row =>
      simp only
      split_ifs with hhint
      · rfl
      · exact hrows
  · exact hrows

/-- An unlock whose steps do not fail makes active what the row opens to. Apart from the name
hint, it leaves the rows as they are. -/
theorem yields_unlock {accountId : Option String} {password : String} {a : ActiveAccount}
    (hpassword : password ≠ "") (hload : v.loadAccountRow accountId = some row)
    (hopens : row.opens sdk safe password = some a)
    (hlegacy : safe.isLegacyWrap row.safeWrappedAppKeyB64 = false)
    (hpending : ∀ p, v.pendingChatServerIdentity = some p →
      a.chatServerIdentity = some p.identity) :
    ∃ v' unlocked, Yields (Task.exec (unlock sdk safe ⟨accountId, password, false⟩)) v
        a.summary v' ∧
      v'.activeAccount = some a ∧ row.keystoreEnvelope.opened password = some unlocked ∧
      v'.rows = (healNameHint unlocked v).rows := by
  obtain ⟨unlocked, appDataKey, identity, hunlocked, hkey, hown, rfl⟩ := opens_cases hopens
  obtain ⟨v₁, hresolve, hrows, hclock⟩ := yields_resolve (v := v.lock) hown hpending
  let active := activeAccountOf row unlocked appDataKey identity
  let v₂ : Vault := { v₁ with activeAccount := some active }
  have hhint : (healNameHint unlocked v₂).rows = (healNameHint unlocked v).rows :=
    healNameHint_rows hrows hclock
  refine ⟨healNameHint unlocked v₂, unlocked, ?_, healNameHint_active unlocked, hunlocked,
    hhint⟩
  rw [unlock, if_neg hpassword]
  refine yields_got ?_
  rw [hload]
  refine yields_computed hunlocked (yields_computed hkey ?_)
  have hheal : Yields (Task.exec (healLegacyOsWrap safe row appDataKey)) v () v := by
    rw [healLegacyOsWrap, if_neg (by rw [hlegacy]; exact Bool.false_ne_true)]
    exact yields_pure () v
  refine yields_seq hheal (yields_modified ?_)
  refine yields_seq hresolve (yields_modified ?_)
  exact yields_pure _ _

end Returned

end RezChat.Desktop
