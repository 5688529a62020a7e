/-
A new password (`changePassword` and `resetPasswordWithMnemonic` of
`desktop/runtime/DesktopVaultService.js`).

The parts of a row are sealed again, on three paths. A change of the password opens them with the
old one; for a delegated row it seals the payload of the keystore as it is, for a primary row it
makes a new keystore out of the account's key pair. A reset has no password to open anything with:
it makes the keystore out of the phrase, and takes the key of the app data from the keychain. The
identity-DH override is sealed under that key, and stays.

Whatever the path, what opens with the new password is the same account (`reseal_keepsAccount`),
and nothing opens with another password. A new keystore is given no device key, and so it has a new
one: after a reset, whose device key is lost with the old password, and after a change for a
primary row too (`changed_device`).
-/
import RezChat.Desktop.Backup
import RezChat.Desktop.Opening

set_option autoImplicit false

namespace RezChat.Desktop

open Inbox (trim)
open Contacts (utf16Length)
open Option Proc RezChat.Task AccountRow Vault Sealed ActiveAccount

/-- A call with two passwords. The device key is drawn where a new keystore is made. Of the
database it is said whether the update throws, and whether the query after it does. -/
structure ChangeCall where
  accountId : Option String
  oldPassword : String
  newPassword : String
  deviceKeyPair : KeyPair
  updateThrows : Bool
  statusThrows : Bool

structure ResetCall where
  accountId : Option String
  mnemonic : String
  newPassword : String
  deviceKeyPair : KeyPair
  updateThrows : Bool
  statusThrows : Bool

namespace Vault

/-- The update of a row, and the lock after it, which returns the status. -/
def commitRow (accountId : String) (f : AccountRow → AccountRow) (updateThrows statusThrows : Bool) :
    Task Vault Unit :=
  if updateThrows = true then failed
  else do
    modify fun v => v.updateRow accountId f
    modify lock
    if statusThrows = true then failed else pure ()

/-- The columns that are written. The password that is kept for device unlock goes. -/
def resealedRow (password : String) (payload : KeystorePayload) (appDataKey : String)
    (safeWrappedAppKeyB64 : Option String) (row : AccountRow) : AccountRow :=
  { row with
    keystoreEnvelope := ⟨password, payload⟩
    appKeyEnvelope := ⟨password, appDataKey⟩
    safeWrappedAppKeyB64 := safeWrappedAppKeyB64
    safeWrappedPasswordB64 := none }

/-- The same, and the phrase. -/
def resealedPrimaryRow (password : String) (payload : KeystorePayload) (appDataKey : String)
    (safeWrappedAppKeyB64 : Option String) (mnemonic : Option String) (row : AccountRow) :
    AccountRow :=
  { resealedRow password payload appDataKey safeWrappedAppKeyB64 row with
    mnemonicEnvelope := mnemonic.map fun text => ⟨password, text⟩ }

variable (sdk : Sdk) (safe : SafeStorage)

/-- `#resealDelegatedKeystore`. The keystore is unlocked, and then its payload is decrypted once
more, to be encrypted as it is. -/
def resealDelegatedKeystore (row : AccountRow) (call : ChangeCall) : Task Vault String := do
  let _ ← compute (row.keystoreEnvelope.opened call.oldPassword)
  compute (some ())
  let payload ← compute (row.keystoreEnvelope.opened call.oldPassword)
  let appDataKey ← compute (row.decryptAppDataKey sdk safe call.oldPassword)
  compute (some ())
  compute (some ())
  compute (some ())
  let safeWrappedAppKeyB64 ← compute (safe.wrapAppDataKey appDataKey)
  commitRow row.accountId (resealedRow call.newPassword payload appDataKey safeWrappedAppKeyB64)
    call.updateThrows call.statusThrows
  pure row.accountId

/-- The phrase of a row, if it has one. -/
def decryptRowMnemonic (row : AccountRow) (password : String) : Task Vault (Option String) :=
  match row.mnemonicEnvelope with
  | none => pure none
  | some envelope => do
    let mnemonic ← compute (decryptMnemonic password envelope)
    pure (some mnemonic)

/-- The rest of `changePassword` for a primary row. -/
def resealPrimaryKeystore (row : AccountRow) (call : ChangeCall) : Task Vault String := do
  let unlocked ← compute (row.keystoreEnvelope.opened call.oldPassword)
  let appDataKey ← compute (row.decryptAppDataKey sdk safe call.oldPassword)
  let mnemonic ← decryptRowMnemonic row call.oldPassword
  match unlocked.identityKeyPair with
  | none => failed
  | some identity => do
    compute (some ())
    compute (some ())
    let safeWrappedAppKeyB64 ← compute (safe.wrapAppDataKey appDataKey)
    if mnemonic.isSome = true then compute (some ()) else pure ()
    let payload := sdk.keystorePayload (nameOr row.profileNameHint "Account") identity
      call.deviceKeyPair
    commitRow row.accountId (resealedPrimaryRow call.newPassword payload appDataKey
      safeWrappedAppKeyB64 mnemonic) call.updateThrows call.statusThrows
    pure row.accountId

/-- `changePassword`. -/
def changePassword (call : ChangeCall) : Task Vault String :=
  if call.oldPassword = "" ∨ utf16Length call.newPassword < 8 ∨
      call.oldPassword = call.newPassword then failed
  else do
    let v ← get
    match v.loadAccountRow call.accountId with
    | none => failed
    | some row =>
      if row.hasAdminRoot = false then resealDelegatedKeystore sdk safe row call
      else resealPrimaryKeystore sdk safe row call

/-- The key of the app data, as the keychain has it. -/
def unwrapAppDataKey (wrapped : String) : Option String :=
  match safe.decryptString wrapped with
  | .error _ => none
  | .ok unwrapped =>
    if unwrapped = "" ∨ sdk.isAppDataKey unwrapped = false then none else some unwrapped

/-- `resetPasswordWithMnemonic`. -/
def resetPasswordWithMnemonic (call : ResetCall) : Task Vault String :=
  if utf16Length call.newPassword < 8 then failed
  else do
    let v ← get
    match v.loadAccountRow call.accountId with
    | none => failed
    | some row =>
      let wrapped := row.safeWrappedAppKeyB64.getD ""
      if row.hasAdminRoot = false ∨ row.seedFingerprintB64.getD "" = "" ∨ wrapped = "" ∨
          safe.available = false then failed
      else
        match sdk.normalizeMnemonic call.mnemonic with
        | none => failed
        | some mnemonic => do
          compute (some ())
          if some (sdk.seedFingerprintB64 (sdk.mnemonicToSeed mnemonic)) ≠ row.seedFingerprintB64 ∨
              sdk.vaultAccountId mnemonic ≠ row.accountId then failed
          else
            match unwrapAppDataKey sdk safe wrapped with
            | none => failed
            | some appDataKey => do
              compute (some ())
              compute (some ())
              let safeWrappedAppKeyB64 ← compute (safe.wrapAppDataKey appDataKey)
              compute (some ())
              let payload := sdk.keystorePayload (nameOr row.profileNameHint "Account")
                (sdk.desktopIdentity mnemonic) call.deviceKeyPair
              commitRow row.accountId (resealedPrimaryRow call.newPassword payload appDataKey
                safeWrappedAppKeyB64 (some mnemonic)) call.updateThrows call.statusThrows
              pure (sdk.vaultAccountId mnemonic)

end Vault

/-! ## What is wanted -/

/-- A row as the vault makes it: the keystore is of the account, a primary one holds its key pair,
and a phrase is canonical and is the account's. -/
structure AccountRow.WellSealed (sdk : Sdk) (row : AccountRow) : Prop where
  account : row.keystoreEnvelope.content.accountId = row.accountId
  root : row.keystoreEnvelope.content.hasAdminRoot = row.hasAdminRoot
  keyPair : ∀ identity, row.keystoreEnvelope.content.identityKeyPair = some identity →
    row.hasAdminRoot = true ∧ row.accountId = sdk.getAccountId identity.publicKeyB64 ∧
      row.keystoreEnvelope.content.identityPublicKey = identity.publicKeyB64
  phrase : ∀ envelope, row.mnemonicEnvelope = some envelope →
    row.accountId = sdk.vaultAccountId envelope.content ∧
      sdk.normalizeMnemonic envelope.content = some envelope.content ∧
      row.keystoreEnvelope.content.identityKeyPair = some (sdk.desktopIdentity envelope.content)
  fingerprint : ∀ text, row.seedFingerprintB64 = some text → row.mnemonicEnvelope ≠ none

/-- No two phrases are the root of one account. -/
def Sdk.PhrasesApart (sdk : Sdk) : Prop :=
  ∀ mnemonic mnemonic', (∃ text, sdk.normalizeMnemonic text = some mnemonic) →
    (∃ text, sdk.normalizeMnemonic text = some mnemonic') →
    sdk.vaultAccountId mnemonic = sdk.vaultAccountId mnemonic' → mnemonic = mnemonic'

/-- What is unlocked is the same account, on whatever device. -/
structure SameAccount (a a' : ActiveAccount) : Prop where
  accountId : a'.accountId = a.accountId
  identityPublicKey : a'.identityPublicKey = a.identityPublicKey
  identityKeyPair : a'.identityKeyPair = a.identityKeyPair
  appDataKey : a'.appDataKey = a.appDataKey
  chatServerIdentity : a'.chatServerIdentity = a.chatServerIdentity

def SameDevice (a a' : ActiveAccount) : Prop :=
  a'.deviceId = a.deviceId ∧ a'.deviceKeyPair = a.deviceKeyPair

/-- The row was sealed again with a password: it opens with it to the account that it opened to,
with the same phrase, and with no other password. -/
structure Resealed (sdk : Sdk) (safe : SafeStorage) (row row' : AccountRow) (password : String) :
    Prop where
  opens : ∀ old a, row.opens sdk safe old = some a →
    ∃ a', row'.opens sdk safe password = some a' ∧ SameAccount a a' ∧
      row'.reveals password = row.reveals old ∧ (row.hasAdminRoot = false → SameDevice a a')
  closed : ∀ other, other ≠ password → row'.opens sdk safe other = none

/-! ## The update -/

section Update

variable {sdk : Sdk} {safe : SafeStorage} {v : Vault} {row : AccountRow}

/-- A row that was updated is as the update makes it, and an update that throws is none. -/
theorem wp_commitRow {accountId : String} {f : AccountRow → AccountRow}
    {updateThrows statusThrows : Bool} (hrow : v.rows.get? accountId = some row) :
    wp (exec (commitRow accountId f updateThrows statusThrows))
      (fun _ v' => v'.rows.get? accountId = some { f row with updatedAtMs := v.clockMs })
      (fun v' => statusThrows = false → v'.rows = v.rows) (fun _ => True) v := by
  rw [commitRow]
  by_cases hupdate : updateThrows = true
  · rw [if_pos hupdate]
    exact wp_throw fun _ => rfl
  rw [if_neg hupdate]
  refine wp_modified (wp_modified ?_)
  have hget : (v.updateRow accountId f).lock.rows.get? accountId =
      some { f row with updatedAtMs := v.clockMs } := by
    rw [lock, updateRow, hrow]
    exact OrdMap.get?_set_self _ _ _
  by_cases hstatus : statusThrows = true
  · rw [if_pos hstatus]
    refine wp_throw fun hnot => ?_
    rw [hstatus] at hnot
    cases hnot
  · rw [if_neg hstatus]
    exact wp_pure hget

/-- What is sealed under a new password opens with no other. -/
theorem resealed_closed {password : String} {payload : KeystorePayload} {row' : AccountRow}
    (hkeystore : row'.keystoreEnvelope = ⟨password, payload⟩) {other : String} (hother : other ≠ password) :
    row'.opens sdk safe other = none := by
  rw [opens, hkeystore, opened_of_ne hother, bind_none]

/-- The key of the app data opens with the new password, and the wrap lets it pass. -/
theorem resealed_appDataKey {password appDataKey : String} {wrap : Option String}
    {row' : AccountRow} (happ : row'.appKeyEnvelope = ⟨password, appDataKey⟩)
    (hwrapped : row'.safeWrappedAppKeyB64 = wrap) (hsafe : safe.Faithful sdk)
    (hkey : sdk.isAppDataKey appDataKey = true) (hwrap : safe.wrapAppDataKey appDataKey = some wrap) :
    row'.decryptAppDataKey sdk safe password = some appDataKey := by
  rw [decryptAppDataKey, happ, opened_mk, bind_some, hwrapped]
  exact if_pos ⟨hkey, (hsafe.wrapped hkey hwrap).1⟩

/-! ## What is sealed again -/

/-- A delegated row, whose payload is sealed as it is. -/
theorem delegated_resealed {password appDataKey : String} {wrap : Option String} {nowMs : Int}
    (hrow : row.WellSealed sdk) (hroot : row.hasAdminRoot = false) (hsafe : safe.Faithful sdk)
    (hkey : sdk.isAppDataKey appDataKey = true) (hwrap : safe.wrapAppDataKey appDataKey = some wrap)
    (happ : row.appKeyEnvelope.content = appDataKey) :
    Resealed sdk safe row { resealedRow password row.keystoreEnvelope.content appDataKey wrap
      row with updatedAtMs := nowMs } password := by
  refine ⟨fun old a h => ?_, fun other hother => resealed_closed rfl hother⟩
  obtain ⟨unlocked, appDataKey', identity, hunlocked, hkey', hown, rfl⟩ := opens_cases h
  obtain rfl : row.keystoreEnvelope.content = unlocked := content_of_opened hunlocked
  obtain rfl : appDataKey = appDataKey' := happ.symm.trans (decryptAppDataKey_content hkey')
  have hdelegated : row.keystoreEnvelope.content.hasAdminRoot = false := hrow.root.trans hroot
  rw [ownIdentity, if_pos hdelegated] at hown
  obtain rfl := some_inj.1 hown
  -- a delegated row has no phrase
  have hphrase : row.mnemonicEnvelope = none := by
    cases henvelope : row.mnemonicEnvelope with
    | none => rfl
    | some envelope =>
      have hpair := (hrow.phrase envelope henvelope).2.2
      exact absurd ((hrow.keyPair _ hpair).1.symm.trans hroot) (by decide)
  refine ⟨_, opens_eq (opened_mk _ _) (resealed_appDataKey rfl rfl hsafe hkey hwrap) ?_,
    ⟨rfl, rfl, rfl, rfl, rfl⟩, ?_, fun _ => ⟨rfl, rfl⟩⟩
  · rw [ownIdentity, if_pos hdelegated]
  · show row.mnemonicEnvelope.bind _ = row.mnemonicEnvelope.bind _
    rw [hphrase]
    rfl

/-- The identity that a primary row has of its own, with its phrase sealed again. -/
theorem ownIdentity_resealed {row' : AccountRow} {old password appDataKey : String}
    {unlocked unlocked' : KeystorePayload} {identity : Option ChatServerIdentity}
    (hroot : unlocked.hasAdminRoot = true) (hroot' : unlocked'.hasAdminRoot = true)
    (hphrase : row'.mnemonicEnvelope =
      (row.mnemonicEnvelope.map content).map fun text => ⟨password, text⟩)
    (hid : row'.accountId = row.accountId) (hdh : row'.identityDhOverride = row.identityDhOverride)
    (hown : row.ownIdentity sdk old unlocked appDataKey = some identity) :
    row'.ownIdentity sdk password unlocked' appDataKey = some identity := by
  rw [ownIdentity, hroot, if_neg (by decide)] at hown
  rw [ownIdentity, hroot', if_neg (by decide), hphrase]
  cases henvelope : row.mnemonicEnvelope with
  | none =>
    rw [henvelope] at hown
    exact hown
  | some envelope =>
    rw [henvelope] at hown
    obtain ⟨mnemonic, hmnemonic, hown⟩ := bind_eq_some_iff.1 hown
    have hreseal : decryptMnemonic password ⟨password, envelope.content⟩ =
        some mnemonic := by
      rw [decryptMnemonic_content hmnemonic]
      exact decryptMnemonic_sealed (decryptMnemonic_filled hmnemonic)
    have hsame : row'.decryptIdentityDhOverride sdk appDataKey =
        row.decryptIdentityDhOverride sdk appDataKey := by
      rw [decryptIdentityDhOverride, decryptIdentityDhOverride, hdh, hid]
    simp only [map_some]
    rw [hreseal, bind_some, hsame]
    exact hown

/-- A primary row, whose keystore is made anew of its key pair. -/
theorem primary_resealed {password appDataKey name : String} {wrap mnemonic : Option String}
    {identity deviceKeyPair : KeyPair} {nowMs : Int} {row' : AccountRow} (hrow : row.WellSealed sdk)
    (hpair : row.keystoreEnvelope.content.identityKeyPair = some identity)
    (hphrase : row.mnemonicEnvelope.map content = mnemonic) (hsafe : safe.Faithful sdk)
    (hkey : sdk.isAppDataKey appDataKey = true) (hwrap : safe.wrapAppDataKey appDataKey = some wrap)
    (happ : ∀ old a, row.opens sdk safe old = some a → a.appDataKey = appDataKey)
    (hrow' : row' = { resealedPrimaryRow password
      (sdk.keystorePayload name identity deviceKeyPair) appDataKey wrap mnemonic row with
        updatedAtMs := nowMs }) : Resealed sdk safe row row' password := by
  obtain ⟨hroot, hid, hpublic⟩ := hrow.keyPair identity hpair
  have hkeystore : row'.keystoreEnvelope =
      ⟨password, sdk.keystorePayload name identity deviceKeyPair⟩ := by rw [hrow']; rfl
  have hresealed : row'.mnemonicEnvelope =
      (row.mnemonicEnvelope.map content).map fun text => ⟨password, text⟩ := by
    rw [hrow', hphrase]
    rfl
  refine ⟨fun old a h => ?_, fun other hother => resealed_closed hkeystore hother⟩
  obtain ⟨unlocked, key, own, hunlocked, -, hown, rfl⟩ := opens_cases h
  obtain rfl : key = appDataKey := happ old _ h
  obtain rfl : row.keystoreEnvelope.content = unlocked := content_of_opened hunlocked
  have hcontentRoot : row.keystoreEnvelope.content.hasAdminRoot = true := hrow.root.trans hroot
  have hopened : row'.keystoreEnvelope.opened password =
      some (sdk.keystorePayload name identity deviceKeyPair) := by
    rw [hkeystore]
    exact opened_mk _ _
  have hdecrypted : row'.decryptAppDataKey sdk safe password = some key :=
    resealed_appDataKey (by rw [hrow']; rfl) (by rw [hrow']; rfl) hsafe hkey hwrap
  refine ⟨_, opens_eq hopened hdecrypted (ownIdentity_resealed hcontentRoot rfl hresealed
    (by rw [hrow']; rfl) (by rw [hrow']; rfl) hown), ?_, ?_, ?_⟩
  · exact ⟨hid.symm.trans hrow.account.symm, hpublic.symm, hpair.symm, rfl, rfl⟩
  · rw [reveals, reveals, hresealed]
    cases henvelope : row.mnemonicEnvelope with
    | none => rfl
    | some envelope =>
      rw [ownIdentity, hcontentRoot, if_neg (by decide), henvelope] at hown
      obtain ⟨text, htext, -⟩ := bind_eq_some_iff.1 hown
      show decryptMnemonic password ⟨password, envelope.content⟩ = _
      rw [bind_some, htext, decryptMnemonic_content htext]
      exact decryptMnemonic_sealed (decryptMnemonic_filled htext)
  · intro hdelegated
    exact absurd (hroot.symm.trans hdelegated) (by decide)

/-! ## The calls -/

/-- A call that gives an account a new password. -/
inductive PasswordCall where
  | change (call : ChangeCall)
  | reset (call : ResetCall)

namespace PasswordCall

def accountId : PasswordCall → Option String
  | change call => call.accountId
  | reset call => call.accountId

def newPassword : PasswordCall → String
  | change call => call.newPassword
  | reset call => call.newPassword

def statusThrows : PasswordCall → Bool
  | change call => call.statusThrows
  | reset call => call.statusThrows

def task (sdk : Sdk) (safe : SafeStorage) : PasswordCall → Task Vault String
  | change call => changePassword sdk safe call
  | reset call => resetPasswordWithMnemonic sdk safe call

end PasswordCall

/-- The device key of the keystore is the one that was drawn. -/
def AccountRow.HasDevice (row : AccountRow) (deviceKeyPair : KeyPair) : Prop :=
  row.keystoreEnvelope.content.deviceKeyPair = some deviceKeyPair

/-- What a call leaves that returned: the row is sealed again with the new password, and after a
reset its device key is the one that was drawn. -/
def Replaced (sdk : Sdk) (safe : SafeStorage) (row : AccountRow) (call : PasswordCall) (v' : Vault) :
    Prop :=
  ∃ row', v'.rows.get? row.accountId = some row' ∧ Resealed sdk safe row row' call.newPassword ∧
    ∀ reset, call = .reset reset → row'.HasDevice reset.deviceKeyPair

/-- The update of a row with what seals it again. -/
theorem wp_reseal {f : AccountRow → AccountRow} {call : PasswordCall} {result : String}
    {updateThrows statusThrows : Bool} (hget : v.rows.get? row.accountId = some row)
    (hf : Resealed sdk safe row { f row with updatedAtMs := v.clockMs } call.newPassword)
    (hdevice : ∀ reset, call = .reset reset → (f row).HasDevice reset.deviceKeyPair) :
    wp (exec (do
        commitRow row.accountId f updateThrows statusThrows
        pure result))
      (fun _ v' => Replaced sdk safe row call v') (fun v' => statusThrows = false → v'.rows = v.rows)
      (fun _ => True) v :=
  wp_seq (wp_commitRow hget) fun _ _ hrow' => wp_pure ⟨_, hrow', hf, hdevice⟩

theorem wp_resealDelegatedKeystore {call : ChangeCall} (hget : v.rows.get? row.accountId = some row)
    (hrow : row.WellSealed sdk) (hroot : row.hasAdminRoot = false) (hsafe : safe.Faithful sdk) :
    wp (exec (resealDelegatedKeystore sdk safe row call))
      (fun _ v' => Replaced sdk safe row (.change call) v')
      (fun v' => call.statusThrows = false → v'.rows = v.rows) (fun _ => True) v := by
  have hsame : call.statusThrows = false → v.rows = v.rows := fun _ => rfl
  rw [resealDelegatedKeystore]
  refine wp_computed (fun _ _ => ?_) hsame trivial
  refine wp_computed (fun _ _ => ?_) hsame trivial
  refine wp_computed (fun payload hpayload => ?_) hsame trivial
  refine wp_computed (fun appDataKey hkey => ?_) hsame trivial
  refine wp_computed (fun _ _ => ?_) hsame trivial
  refine wp_computed (fun _ _ => ?_) hsame trivial
  refine wp_computed (fun _ _ => ?_) hsame trivial
  refine wp_computed (fun wrap hwrap => wp_reseal hget ?_ fun _ h => nomatch h) hsame trivial
  rw [← content_of_opened hpayload]
  exact delegated_resealed hrow hroot hsafe (decryptAppDataKey_isKey hkey) hwrap
    (decryptAppDataKey_content hkey)

theorem wp_decryptRowMnemonic {E : Vault → Prop} {password : String} (hE : E v) :
    wp (exec (decryptRowMnemonic row password))
      (fun mnemonic v' => row.mnemonicEnvelope.map content = mnemonic ∧ v' = v) E
      (fun _ => True) v := by
  rw [decryptRowMnemonic]
  cases henvelope : row.mnemonicEnvelope with
  | none => exact wp_pure ⟨rfl, rfl⟩
  | some envelope =>
    refine wp_computed (fun mnemonic hmnemonic => wp_pure ⟨?_, rfl⟩) hE trivial
    rw [map_some, decryptMnemonic_content hmnemonic]

theorem wp_resealPrimaryKeystore {call : ChangeCall} (hget : v.rows.get? row.accountId = some row)
    (hrow : row.WellSealed sdk) (hsafe : safe.Faithful sdk) :
    wp (exec (resealPrimaryKeystore sdk safe row call))
      (fun _ v' => Replaced sdk safe row (.change call) v')
      (fun v' => call.statusThrows = false → v'.rows = v.rows) (fun _ => True) v := by
  have hsame : call.statusThrows = false → v.rows = v.rows := fun _ => rfl
  rw [resealPrimaryKeystore]
  refine wp_computed (fun unlocked hunlocked => ?_) hsame trivial
  refine wp_computed (fun appDataKey hkey => ?_) hsame trivial
  refine wp_seq (wp_decryptRowMnemonic hsame) fun mnemonic v' h => ?_
  obtain ⟨hphrase, rfl⟩ := h
  obtain rfl : row.keystoreEnvelope.content = unlocked := content_of_opened hunlocked
  cases hpair : row.keystoreEnvelope.content.identityKeyPair with
  | none => exact wp_throw hsame
  | some identity =>
    refine wp_computed (fun _ _ => ?_) hsame trivial
    refine wp_computed (fun _ _ => ?_) hsame trivial
    refine wp_computed (fun wrap hwrap => ?_) hsame trivial
    -- what opens with the old password is the key that was decrypted
    have happ : ∀ old a, row.opens sdk safe old = some a → a.appDataKey = appDataKey := by
      intro old a h
      obtain ⟨_, key, _, -, hkey', -, rfl⟩ := opens_cases h
      exact (decryptAppDataKey_content hkey').symm.trans (decryptAppDataKey_content hkey)
    have hsealed (name : String) (nowMs : Int) : Resealed sdk safe row
        { resealedPrimaryRow call.newPassword (sdk.keystorePayload name identity
          call.deviceKeyPair) appDataKey wrap mnemonic row with updatedAtMs := nowMs }
        call.newPassword :=
      primary_resealed hrow hpair hphrase hsafe (decryptAppDataKey_isKey hkey) hwrap happ rfl
    by_cases hsome : mnemonic.isSome = true
    · rw [if_pos hsome]
      exact wp_computed (fun _ _ => wp_reseal hget (hsealed _ _) fun _ h => nomatch h) hsame trivial
    · rw [if_neg hsome]
      exact wp_reseal hget (hsealed _ _) fun _ h => nomatch h

theorem wp_changePassword {call : ChangeCall} (hload : v.loadAccountRow call.accountId = some row)
    (hget : v.rows.get? row.accountId = some row) (hrow : row.WellSealed sdk)
    (hsafe : safe.Faithful sdk) :
    wp (exec (changePassword sdk safe call))
      (fun _ v' => Replaced sdk safe row (.change call) v')
      (fun v' => call.statusThrows = false → v'.rows = v.rows) (fun _ => True) v := by
  rw [changePassword]
  by_cases hrefused : call.oldPassword = "" ∨ utf16Length call.newPassword < 8 ∨
    call.oldPassword = call.newPassword
  · rw [if_pos hrefused]
    exact wp_throw fun _ => rfl
  rw [if_neg hrefused]
  refine wp_got ?_
  rw [hload]
  dsimp only
  by_cases hroot : row.hasAdminRoot = false
  · rw [if_pos hroot]
    exact wp_resealDelegatedKeystore hget hrow hroot hsafe
  · rw [if_neg hroot]
    exact wp_resealPrimaryKeystore hget hrow hsafe

theorem unwrapAppDataKey_cases {wrapped appDataKey : String}
    (h : unwrapAppDataKey sdk safe wrapped = some appDataKey) :
    safe.decryptString wrapped = .ok appDataKey ∧ sdk.isAppDataKey appDataKey = true := by
  rw [unwrapAppDataKey] at h
  cases hdecrypt : safe.decryptString wrapped with
  | error e =>
    rw [hdecrypt] at h
    cases h
  | ok unwrapped =>
    rw [hdecrypt] at h
    simp only at h
    split_ifs at h with hrefused
    obtain rfl := some_inj.1 h
    rw [not_or, Bool.not_eq_false] at hrefused
    exact ⟨rfl, hrefused.2⟩

/-- The keychain has the key that the row opens to, for an unlock would not let another one pass. -/
theorem unwrapAppDataKey_eq {old wrapped appDataKey : String} {a : ActiveAccount}
    (hsafe : safe.Faithful sdk) (havailable : safe.available = true) (hfilled : wrapped ≠ "")
    (hwrapped : row.safeWrappedAppKeyB64 = some wrapped)
    (h : unwrapAppDataKey sdk safe wrapped = some appDataKey)
    (hopens : row.opens sdk safe old = some a) : a.appDataKey = appDataKey := by
  obtain ⟨hdecrypt, hisKey⟩ := unwrapAppDataKey_cases h
  obtain ⟨_, key, _, -, hkey, -, rfl⟩ := opens_cases hopens
  obtain ⟨text, -, htext⟩ := bind_eq_some_iff.1 hkey
  split_ifs at htext with hboth
  obtain rfl := some_inj.1 htext
  have hverifies := hboth.2
  rw [hwrapped] at hverifies
  simp only [SafeStorage.verifies, havailable, if_neg hfilled, hdecrypt, hsafe.keys _ hisKey,
    decide_eq_true_eq] at hverifies
  exact hverifies.symm

theorem wp_resetPasswordWithMnemonic {call : ResetCall}
    (hload : v.loadAccountRow call.accountId = some row)
    (hget : v.rows.get? row.accountId = some row) (hrow : row.WellSealed sdk)
    (hphrases : sdk.PhrasesApart) (hsafe : safe.Faithful sdk) :
    wp (exec (resetPasswordWithMnemonic sdk safe call))
      (fun _ v' => Replaced sdk safe row (.reset call) v')
      (fun v' => call.statusThrows = false → v'.rows = v.rows) (fun _ => True) v := by
  have hsame : call.statusThrows = false → v.rows = v.rows := fun _ => rfl
  rw [resetPasswordWithMnemonic]
  by_cases hshort : utf16Length call.newPassword < 8
  · rw [if_pos hshort]
    exact wp_throw hsame
  rw [if_neg hshort]
  refine wp_got ?_
  rw [hload]
  dsimp only
  by_cases hrefused : row.hasAdminRoot = false ∨ row.seedFingerprintB64.getD "" = "" ∨
    row.safeWrappedAppKeyB64.getD "" = "" ∨ safe.available = false
  · rw [if_pos hrefused]
    exact wp_throw hsame
  rw [if_neg hrefused]
  cases hmnemonic : sdk.normalizeMnemonic call.mnemonic with
  | none => exact wp_throw hsame
  | some mnemonic =>
    refine wp_computed (fun _ _ => ?_) hsame trivial
    by_cases hother : some (sdk.seedFingerprintB64 (sdk.mnemonicToSeed mnemonic)) ≠
      row.seedFingerprintB64 ∨ sdk.vaultAccountId mnemonic ≠ row.accountId
    · rw [if_pos hother]
      exact wp_throw hsame
    rw [if_neg hother]
    rw [not_or, not_not, not_not] at hother
    cases hkey : unwrapAppDataKey sdk safe (row.safeWrappedAppKeyB64.getD "") with
    | none => exact wp_throw hsame
    | some appDataKey =>
      -- the phrase that was given is the phrase in the row
      obtain ⟨envelope, henvelope⟩ := ne_none_iff_exists'.1
        (hrow.fingerprint _ hother.1.symm)
      obtain ⟨hid, hcanonical, hpair⟩ := hrow.phrase envelope henvelope
      obtain rfl : envelope.content = mnemonic := hphrases _ _ ⟨_, hcanonical⟩ ⟨_, hmnemonic⟩
        (hid.symm.trans hother.2.symm)
      refine wp_computed (fun _ _ => ?_) hsame trivial
      refine wp_computed (fun _ _ => ?_) hsame trivial
      refine wp_computed (fun wrap hwrap => ?_) hsame trivial
      refine wp_computed (fun _ _ => wp_reseal hget ?_ ?_) hsame trivial
      rotate_left
      · intro reset heq
        obtain rfl := PasswordCall.reset.inj heq
        rfl
      rw [not_or, not_or, not_or, Bool.not_eq_false, Bool.not_eq_false] at hrefused
      obtain ⟨-, -, hfilled, havailable⟩ := hrefused
      have hwrapped : row.safeWrappedAppKeyB64 = some (row.safeWrappedAppKeyB64.getD "") := by
        cases hnone : row.safeWrappedAppKeyB64 with
        | none =>
          rw [hnone] at hfilled
          exact absurd rfl hfilled
        | some wrapped => rfl
      have happ : ∀ old a, row.opens sdk safe old = some a → a.appDataKey = appDataKey :=
        fun old a h => unwrapAppDataKey_eq hsafe havailable hfilled hwrapped hkey h
      have hphrase : row.mnemonicEnvelope.map content = some envelope.content := by
        rw [henvelope, map_some]
      exact primary_resealed hrow hpair hphrase hsafe (unwrapAppDataKey_cases hkey).2 hwrap happ rfl

/-- **A new password, the same account.** After a change of the password, or a reset, that returned,
the row opens with the new password, and with no other, to the account that it opened to, with the
same phrase; a delegated row opens to the same device. A call that throws, other than from the query
after the update, leaves the rows as they were. -/
theorem reseal_keepsAccount (call : PasswordCall) (fates : List Fate)
    (hload : v.loadAccountRow call.accountId = some row)
    (hget : v.rows.get? row.accountId = some row) (hrow : row.WellSealed sdk)
    (hphrases : sdk.PhrasesApart) (hsafe : safe.Faithful sdk) :
    (∀ result, (Task.exec (call.task sdk safe) fates v).outcome = .returned result →
      Replaced sdk safe row call (Task.exec (call.task sdk safe) fates v).state) ∧
    ((Task.exec (call.task sdk safe) fates v).outcome = .threw → call.statusThrows = false →
      (Task.exec (call.task sdk safe) fates v).state.rows = v.rows) := by
  have hwp : wp (Task.exec (call.task sdk safe)) (fun _ v' => Replaced sdk safe row call v')
      (fun v' => call.statusThrows = false → v'.rows = v.rows) (fun _ => True) v := by
    cases call with
    | change call => exact wp_changePassword hload hget hrow hsafe
    | reset call => exact wp_resetPasswordWithMnemonic hload hget hrow hphrases hsafe
  exact ⟨fun result hreturned => wp_returned hwp hreturned, fun hthrew => wp_threw hwp hthrew⟩

end Update

/-! ## Two calls -/

/-- A keychain that hides nothing. -/
def openSafeStorage : SafeStorage where
  available := true
  ensured := true
  encryptString := .ok
  decryptString := .ok

theorem openSafeStorage_faithful : openSafeStorage.Faithful plainSdk := by
  refine ⟨fun text wrapped h => ?_, fun key hkey => ?_⟩
  · rw [Except.ok.inj h]
    rfl
  · rw [of_decide_eq_true hkey]
    rfl

/-- A vault with one account. -/
def soleRow : AccountRow :=
  primaryRow plainSdk "Ann" "password" "ann" "key" ⟨"D", "d"⟩ (some "key") 1

def soleVault : Vault := { fresh 2 with rows := OrdMap.empty.set "ann" soleRow }

theorem soleRow_wellSealed : soleRow.WellSealed plainSdk := by
  refine ⟨rfl, rfl, fun identity h => ?_, fun envelope h => ?_, fun text _ => by decide⟩
  · obtain rfl := some_inj.1 h
    exact ⟨rfl, rfl, rfl⟩
  · obtain rfl := some_inj.1 h
    exact ⟨rfl, rfl, rfl⟩

def changeAnn (statusThrows : Bool) : PasswordCall :=
  .change ⟨none, "password", "another password", ⟨"E", "e"⟩, false, statusThrows⟩

def resetAnn : PasswordCall := .reset ⟨none, "ann", "another password", ⟨"E", "e"⟩, false, false⟩

theorem reseal_keepsAccount_ann :
    Replaced plainSdk openSafeStorage soleRow (changeAnn false)
      (Task.exec ((changeAnn false).task plainSdk openSafeStorage) [] soleVault).state :=
  (reseal_keepsAccount (changeAnn false) [] rfl rfl soleRow_wellSealed (fun _ _ _ _ h => h)
    openSafeStorage_faithful).1 "ann" rfl

/-- The account that a password opens in the row of a vault. -/
def Vault.opensTo (sdk : Sdk) (safe : SafeStorage) (v : Vault) (accountId password : String) :
    Option ActiveAccount :=
  (v.rows.get? accountId).bind fun row => row.opens sdk safe password

/-- **A new device**: a primary row has one after a change of the password, and after a reset. And a
call whose last query throws has changed the row. -/
theorem changed_device :
    (soleVault.opensTo plainSdk openSafeStorage "ann" "password").map deviceId =
        some "D" ∧
      (Task.exec ((changeAnn false).task plainSdk openSafeStorage) [] soleVault).outcome =
        .returned "ann" ∧
      ((Task.exec ((changeAnn false).task plainSdk openSafeStorage) [] soleVault).state.opensTo
        plainSdk openSafeStorage "ann" "another password").map deviceId = some "E" ∧
      (Task.exec (resetAnn.task plainSdk openSafeStorage) [] soleVault).outcome =
        .returned "ann" ∧
      ((Task.exec (resetAnn.task plainSdk openSafeStorage) [] soleVault).state.opensTo
        plainSdk openSafeStorage "ann" "another password").map deviceId = some "E" ∧
      (Task.exec ((changeAnn true).task plainSdk openSafeStorage) [] soleVault).outcome = .threw ∧
      (Task.exec ((changeAnn true).task plainSdk openSafeStorage) [] soleVault).state.opensTo
        plainSdk openSafeStorage "ann" "password" = none :=
  ⟨rfl, rfl, rfl, rfl, rfl, rfl, rfl⟩

end RezChat.Desktop
