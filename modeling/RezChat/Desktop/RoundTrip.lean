/-
Backups are restored.

What a backup is wanted for: imported into a vault that does not have the account, with its phrase
and any new password, it gives a row that opens to the same account, with the key of its app data,
its chat-server identity, the identity-DH key in it, and the profile. With another phrase, or
altered, it gives nothing, and the vault stays as it was.

Three things are kept less strictly than that. The time in the header of the file is read by no
one, so altering it does not matter (`restored_altered`). A row whose name hint is blank or the
placeholder is restored under the placeholder. And the hash of the avatar file is trimmed.

Of the encryption it is assumed that it opens what it sealed, and that nothing else opens
(`BackupAead.Seals`).
-/
import RezChat.Desktop.Backup
import RezChat.Desktop.Opening

set_option autoImplicit false

namespace RezChat.Desktop

open Inbox (trim trimmed trim_trim)
open Contacts (utf16Length)
open Option Proc RezChat.Task Vault AccountRow BackupEnvelope Sealed

/-! ## What is assumed -/

/-- What is assumed of the encryption of one bundle under the key of a phrase: its texts are read
back, it opens to what was sealed, under the key nothing else opens, and it opens under the key of
no other phrase. -/
structure BackupAead.Seals {β : Type} (aead : BackupAead β) (sdk : Sdk) (mnemonic : String)
    (nonce : β) (aad : String) (bundle : BackupBundle) : Prop where
  nonce_read : aead.fromBase64 (aead.toBase64 nonce) = some nonce
  ciphertext_read : aead.fromBase64 (aead.toBase64 (aead.aeadEncrypt
    (aead.deriveKey (sdk.mnemonicToSeed mnemonic)) nonce aad bundle)) =
      some (aead.aeadEncrypt (aead.deriveKey (sdk.mnemonicToSeed mnemonic)) nonce aad bundle)
  opens : aead.aeadDecrypt (aead.deriveKey (sdk.mnemonicToSeed mnemonic)) nonce
    (aead.aeadEncrypt (aead.deriveKey (sdk.mnemonicToSeed mnemonic)) nonce aad bundle) aad =
      some bundle
  authentic : ∀ nonce' ciphertext aad' bundle',
    aead.aeadDecrypt (aead.deriveKey (sdk.mnemonicToSeed mnemonic)) nonce' ciphertext aad' =
      some bundle' → nonce' = nonce ∧ aad' = aad ∧
        ciphertext = aead.aeadEncrypt (aead.deriveKey (sdk.mnemonicToSeed mnemonic)) nonce aad bundle
  other : ∀ mnemonic', mnemonic' ≠ mnemonic →
    aead.aeadDecrypt (aead.deriveKey (sdk.mnemonicToSeed mnemonic')) nonce
      (aead.aeadEncrypt (aead.deriveKey (sdk.mnemonicToSeed mnemonic)) nonce aad bundle) aad = none

/-- A primary row, as the vault makes it of a phrase. -/
structure AccountRow.Rooted (sdk : Sdk) (row : AccountRow) (mnemonic : String) : Prop where
  phrase : row.mnemonicEnvelope.map content = some mnemonic
  accountId : row.accountId = sdk.vaultAccountId mnemonic
  named : trim row.accountId = row.accountId ∧ row.accountId ≠ ""
  fingerprint : row.seedFingerprintB64 = some (sdk.seedFingerprintB64 (sdk.mnemonicToSeed mnemonic))
  keystoreAccount : row.keystoreEnvelope.content.accountId = row.accountId
  root : row.keystoreEnvelope.content.hasAdminRoot = true
  publicKey : row.keystoreEnvelope.content.identityPublicKey =
    (sdk.desktopIdentity mnemonic).publicKeyB64
  keyPair : row.keystoreEnvelope.content.identityKeyPair = some (sdk.desktopIdentity mnemonic)

/-! ## What is wanted -/

/-- The name hint is a name. -/
def AccountRow.HasName (row : AccountRow) : Prop :=
  trim row.profileNameHint ≠ "" ∧ trim row.profileNameHint ≠ "Account"

instance (row : AccountRow) : Decidable row.HasName := inferInstanceAs (Decidable (_ ∧ _))

/-- A row that opens to `a'` has what the row that opens to `a` has. -/
structure Restores (row row' : AccountRow) (a a' : ActiveAccount) : Prop where
  accountId : a'.accountId = a.accountId
  identityPublicKey : a'.identityPublicKey = a.identityPublicKey
  identityKeyPair : a'.identityKeyPair = a.identityKeyPair
  appDataKey : a'.appDataKey = a.appDataKey
  chatServerIdentity : a'.chatServerIdentity = a.chatServerIdentity
  profileName : a'.profileName = if row.HasName then a.profileName else "Account"
  avatarFileHash : row'.avatarFileHash.getD "" = trim (row.avatarFileHash.getD "")
  avatarDataB64 : row'.avatarDataB64.getD "" = row.avatarDataB64.getD ""

/-- Two files have the same content: all but the time of the export is read, and of the encrypted
parts their bytes are. -/
structure BackupEnvelope.SameContent {β : Type} (aead : BackupAead β) (file file' : BackupEnvelope) :
    Prop where
  v : file'.v = file.v
  type : file'.type = file.type
  accountId : file'.accountId = file.accountId
  seedFingerprintB64 : file'.seedFingerprintB64 = file.seedFingerprintB64
  nonce : file'.nonceB64.bind aead.fromBase64 = file.nonceB64.bind aead.fromBase64
  ciphertext : file'.ciphertextB64.bind aead.fromBase64 = file.ciphertextB64.bind aead.fromBase64

/-! ## What is exported -/

section Export

variable {β : Type} {sdk : Sdk} {safe : SafeStorage} {aead : BackupAead β} {v : Vault}

/-- What the backup of a row holds. -/
def AccountRow.backedUp (sdk : Sdk) (safe : SafeStorage) (row : AccountRow) (password : String)
    (nowMs : Int) : Option BackupBundle :=
  (row.decryptAppDataKey sdk safe password).bind fun appDataKey =>
    (row.decryptIdentityDhOverride sdk appDataKey).bind fun identityDh =>
      row.seedFingerprintB64.map fun seedFingerprintB64 =>
        row.bundle seedFingerprintB64 appDataKey identityDh nowMs

/-- The file of a bundle. -/
def backupFile (aead : BackupAead β) (key : String) (nonce : β) (bundle : BackupBundle)
    (nowMs : Int) : BackupEnvelope where
  v := some 1
  type := some "rez-backup"
  accountId := some bundle.accountId
  seedFingerprintB64 := some bundle.seedFingerprintB64
  nonceB64 := some (aead.toBase64 nonce)
  ciphertextB64 := some (aead.toBase64
    (aead.aeadEncrypt key nonce (backupAad bundle.accountId) bundle))
  createdAtMs := some nowMs

/-- What an export that returns has opened, and what it returns. -/
structure Exported (sdk : Sdk) (safe : SafeStorage) (aead : BackupAead β) (row : AccountRow)
    (call : ExportCall β) (nowMs : Int) (file : BackupEnvelope) : Prop where
  holds : ∃ unlocked mnemonic appDataKey identityDh fingerprint envelope,
    row.mnemonicEnvelope = some envelope ∧
    row.keystoreEnvelope.opened call.password = some unlocked ∧
    decryptMnemonic call.password envelope = some mnemonic ∧
    row.decryptAppDataKey sdk safe call.password = some appDataKey ∧
    row.decryptIdentityDhOverride sdk appDataKey = some identityDh ∧
    row.seedFingerprintB64 = some fingerprint ∧ fingerprint ≠ "" ∧
    file = backupFile aead (aead.deriveKey (sdk.mnemonicToSeed mnemonic)) call.nonce
      (row.bundle fingerprint appDataKey identityDh nowMs) nowMs

theorem wp_exportBackup (call : ExportCall β) :
    wp (exec (exportBackup sdk safe aead call))
      (fun file _ => ∃ row, v.loadAccountRow call.accountId = some row ∧
        Exported sdk safe aead row call v.clockMs file) (fun _ => True) (fun _ => True) v := by
  rw [exportBackup]
  by_cases hempty : call.password = ""
  · rw [if_pos hempty]
    exact wp_throw trivial
  rw [if_neg hempty]
  refine wp_got ?_
  cases hload : v.loadAccountRow call.accountId with
  | none => exact wp_throw trivial
  | some row =>
    simp only
    cases hroot : row.hasAdminRoot with
    | false => exact wp_throw trivial
    | true =>
      cases henvelope : row.mnemonicEnvelope with
      | none => exact wp_throw trivial
      | some envelope =>
        cases hfingerprint : row.seedFingerprintB64.filter (· ≠ "") with
        | none => exact wp_throw trivial
        | some fingerprint =>
          obtain ⟨hsome, hne⟩ := filter_eq_some_iff.1 hfingerprint
          refine wp_computed (fun unlocked hunlocked => ?_) trivial trivial
          refine wp_computed (fun mnemonic hmnemonic => ?_) trivial trivial
          refine wp_computed (fun appDataKey hkey => ?_) trivial trivial
          refine wp_computed (fun identityDh hdh => wp_got ?_) trivial trivial
          refine wp_computed (fun ciphertext hciphertext => wp_got ?_) trivial trivial
          obtain rfl := some_inj.1 hciphertext
          refine wp_pure ⟨row, rfl, ⟨unlocked, mnemonic, appDataKey, identityDh, fingerprint,
            envelope, henvelope, hunlocked, hmnemonic, hkey, hdh, hsome, ?_, rfl⟩⟩
          exact of_decide_eq_true hne

/-! ## What is refused -/

/-- The file that was given opens with the phrase that was given, which is the phrase of its
account. -/
def Accepted (sdk : Sdk) (aead : BackupAead β) (imp : ImportCall) (mnemonic : String)
    (file : Fields) : Prop :=
  imp.encryptedBackup.bind fields = some file ∧
    sdk.normalizeMnemonic imp.mnemonic = some mnemonic ∧
    sdk.seedFingerprintB64 (sdk.mnemonicToSeed mnemonic) = file.seedFingerprintB64 ∧
    (∃ bundle, decryptBackup sdk aead mnemonic file = some bundle) ∧
    sdk.vaultAccountId mnemonic = file.accountId

variable {imp : ImportCall}

/-- An import that does not accept what it was given throws, or the process dies. The vault stays
as it was. -/
theorem wp_import_refused
    (h : ∀ mnemonic file, ¬Accepted sdk aead imp mnemonic file) :
    wp (exec (importBackup sdk safe aead imp)) (fun _ _ => False) (fun v' => v' = v)
      (fun v' => v' = v) v := by
  rw [importBackup]
  by_cases hshort : utf16Length imp.newPassword < 8
  · rw [if_pos hshort]
    exact wp_throw rfl
  rw [if_neg hshort]
  cases hfile : imp.encryptedBackup.bind fields with
  | none => exact wp_throw rfl
  | some file =>
    cases hmnemonic : sdk.normalizeMnemonic imp.mnemonic with
    | none => exact wp_throw rfl
    | some mnemonic =>
      refine wp_got ?_
      by_cases hthere : v.rows.has file.accountId = true
      · rw [if_pos hthere]
        exact wp_throw rfl
      rw [if_neg hthere]
      refine wp_computed (fun _ _ => ?_) rfl rfl
      by_cases hfingerprint :
        sdk.seedFingerprintB64 (sdk.mnemonicToSeed mnemonic) ≠ file.seedFingerprintB64
      · rw [if_pos hfingerprint]
        exact wp_throw rfl
      rw [if_neg hfingerprint]
      refine wp_computed (fun bundle hbundle => ?_) rfl rfl
      by_cases hrefused : bundle.v ≠ 1 ∨ sdk.isAppDataKey bundle.appDataKeyB64 = false ∨
        sdk.vaultAccountId mnemonic ≠ file.accountId
      · rw [if_pos hrefused]
        exact wp_throw rfl
      rw [if_neg hrefused]
      rw [not_or, not_or, not_not] at hrefused
      exact (h mnemonic file ⟨hfile, hmnemonic, not_not.1 hfingerprint, ⟨bundle, hbundle⟩,
        not_not.1 hrefused.2.2⟩).elim

theorem backupAad_inj {accountId accountId' : String} (h : backupAad accountId = backupAad accountId') :
    accountId = accountId' := by
  simpa [backupAad] using h

/-- The fields of a file that was accepted. -/
theorem fields_cases {file : BackupEnvelope} {f : Fields}
    (h : file.fields = some f) :
    file.v = some 1 ∧ file.type = some "rez-backup" ∧ file.accountId = some f.accountId ∧
      file.seedFingerprintB64 = some f.seedFingerprintB64 ∧ file.nonceB64 = some f.nonceB64 ∧
      file.ciphertextB64 = some f.ciphertextB64 := by
  rw [fields] at h
  split_ifs at h with hheader
  split at h
  · rename_i accountId fingerprint nonce ciphertext hid hfp hnonce hct
    split_ifs at h
    obtain rfl := some_inj.1 h
    exact ⟨hheader.1, hheader.2, hid, hfp, hnonce, hct⟩
  · cases h

theorem decryptBackup_cases {mnemonic : String} {f : Fields} {bundle : BackupBundle}
    (h : decryptBackup sdk aead mnemonic f = some bundle) :
    ∃ nonce ciphertext, aead.fromBase64 f.nonceB64 = some nonce ∧
      aead.fromBase64 f.ciphertextB64 = some ciphertext ∧
      aead.aeadDecrypt (aead.deriveKey (sdk.mnemonicToSeed mnemonic)) nonce ciphertext
        (backupAad f.accountId) = some bundle := by
  rw [decryptBackup] at h
  split at h
  · rename_i nonce ciphertext hnonce hct
    exact ⟨nonce, ciphertext, hnonce, hct, h⟩
  · cases h

/-- The file that a bundle is exported to. -/
structure FileOf (sdk : Sdk) (aead : BackupAead β) (mnemonic : String) (nonce : β)
    (bundle : BackupBundle) (file : BackupEnvelope) : Prop where
  seals : aead.Seals sdk mnemonic nonce (backupAad bundle.accountId) bundle
  accountId : bundle.accountId = sdk.vaultAccountId mnemonic
  fingerprint : bundle.seedFingerprintB64 = sdk.seedFingerprintB64 (sdk.mnemonicToSeed mnemonic)
  file_eq : ∃ nowMs,
    file = backupFile aead (aead.deriveKey (sdk.mnemonicToSeed mnemonic)) nonce bundle nowMs

variable {mnemonic : String} {nonce : β} {bundle : BackupBundle} {file : BackupEnvelope}

variable {file' : BackupEnvelope}

section

variable (hf : FileOf sdk aead mnemonic nonce bundle file)
include hf

/-- **Another phrase** opens nothing. -/
theorem other_refused
    (hsame : file.SameContent aead file')
    (himp : imp.encryptedBackup = some file') (hother : sdk.normalizeMnemonic imp.mnemonic ≠ some mnemonic)
    (mnemonic' : String) (f : Fields) : ¬Accepted sdk aead imp mnemonic' f := by
  rintro ⟨hfields, hmnemonic, -, ⟨opened, hopened⟩, -⟩
  have hne : mnemonic' ≠ mnemonic := by
    rintro rfl
    exact hother hmnemonic
  rw [himp] at hfields
  obtain ⟨-, -, hid, -, hnonce, hct⟩ := fields_cases hfields
  obtain ⟨nonce', ct, hnonce', hct', hdecrypt⟩ := decryptBackup_cases hopened
  obtain ⟨nowMs, rfl⟩ := hf.file_eq
  -- the file has the bytes that were exported, and these do not open under the key
  have h₁ := hsame.nonce
  rw [hnonce] at h₁
  have h₂ := hsame.ciphertext
  rw [hct] at h₂
  have h₃ := hsame.accountId
  rw [hid] at h₃
  have hn : nonce' = nonce :=
    some_inj.1 (hnonce'.symm.trans (h₁.trans hf.seals.nonce_read))
  have hc := some_inj.1 (hct'.symm.trans (h₂.trans hf.seals.ciphertext_read))
  have hi : f.accountId = bundle.accountId := some_inj.1 h₃
  rw [hn, hc, hi, hf.seals.other mnemonic' hne] at hdecrypt
  cases hdecrypt

/-- **An altered file** does not open with its phrase. -/
theorem altered_refused
    (haltered : ¬file.SameContent aead file')
    (himp : imp.encryptedBackup = some file') (hmnemonic : sdk.normalizeMnemonic imp.mnemonic = some mnemonic)
    (mnemonic' : String) (f : Fields) : ¬Accepted sdk aead imp mnemonic' f := by
  rintro ⟨hfields, hmnemonic', hfingerprint, ⟨opened, hopened⟩, -⟩
  obtain rfl : mnemonic = mnemonic' := some_inj.1 (hmnemonic.symm.trans hmnemonic')
  rw [himp] at hfields
  obtain ⟨hv, htype, hid, hfp, hnonce, hct⟩ := fields_cases hfields
  obtain ⟨nonce', ct, hnonce', hct', hdecrypt⟩ := decryptBackup_cases hopened
  obtain ⟨hn, haad, hc⟩ := hf.seals.authentic nonce' ct _ opened hdecrypt
  obtain ⟨nowMs, rfl⟩ := hf.file_eq
  refine haltered ⟨hv, htype, ?_, ?_, ?_, ?_⟩
  · rw [hid, backupAad_inj haad]
    rfl
  · rw [hfp, ← hfingerprint, ← hf.fingerprint]
    rfl
  · rw [hnonce, bind_some, hnonce', hn]
    exact hf.seals.nonce_read.symm
  · rw [hct, bind_some, hct', hc]
    exact hf.seals.ciphertext_read.symm

/-- The phrase opens what has the content that was exported. -/
theorem same_accepted
    (hsame : file.SameContent aead file')
    (himp : imp.encryptedBackup = some file')
    (hmnemonic : sdk.normalizeMnemonic imp.mnemonic = some mnemonic)
    (hid : bundle.accountId ≠ "") (hfingerprint : bundle.seedFingerprintB64 ≠ "") :
    ∃ f : Fields, Accepted sdk aead imp mnemonic f ∧
      f.accountId = bundle.accountId ∧ decryptBackup sdk aead mnemonic f = some bundle := by
  obtain ⟨nowMs, rfl⟩ := hf.file_eq
  obtain ⟨n, hn, hnonce⟩ := bind_eq_some_iff.1 (hsame.nonce.trans hf.seals.nonce_read)
  obtain ⟨c, hc, hct⟩ := bind_eq_some_iff.1 (hsame.ciphertext.trans hf.seals.ciphertext_read)
  have hfields : file'.fields = some ⟨bundle.accountId, bundle.seedFingerprintB64, n, c⟩ := by
    have hheader : file'.v = some 1 ∧ file'.type = some "rez-backup" := ⟨hsame.v, hsame.type⟩
    rw [fields, if_pos hheader, hsame.accountId, hsame.seedFingerprintB64, hn, hc]
    exact if_neg (not_or.2 ⟨hid, hfingerprint⟩)
  have hdecrypt : decryptBackup sdk aead mnemonic
      ⟨bundle.accountId, bundle.seedFingerprintB64, n, c⟩ = some bundle := by
    rw [decryptBackup]
    simp only [hnonce, hct]
    exact hf.seals.opens
  refine ⟨_, ⟨?_, hmnemonic, hf.fingerprint.symm, ⟨bundle, hdecrypt⟩, hf.accountId.symm⟩, rfl,
    hdecrypt⟩
  rw [himp]
  exact hfields

end

/-! ## What is restored -/

section Import

variable {imp : ImportCall} {f : Fields} {identityDh : Option KeyPair}
  {wrap : Option String}

/-- What the row of an import opens to. -/
theorem importedRow_opens {password : String} {deviceKeyPair : KeyPair} {nowMs : Int}
    (hmnemonic : mnemonic ≠ "") (hkey : sdk.isAppDataKey bundle.appDataKeyB64 = true)
    (hverifies : safe.verifies wrap bundle.appDataKeyB64 = true)
    (hdh : identityDh.bind sdk.validateIdentityDhKeyPair = identityDh) (row : AccountRow)
    (hrow : row = importedRow sdk bundle mnemonic password deviceKeyPair wrap identityDh nowMs) :
    row.opens sdk safe password = some (activeAccountOf row row.keystoreEnvelope.content
      bundle.appDataKeyB64
      (some (deriveChatServerIdentity sdk mnemonic identityDh))) := by
  subst hrow
  refine opens_eq (opened_mk _ _) ?_ ?_
  · rw [decryptAppDataKey]
    show ((opened ⟨password, bundle.appDataKeyB64⟩ password).bind _) = _
    rw [opened_mk, bind_some]
    exact if_pos ⟨hkey, hverifies⟩
  · rw [ownIdentity, if_neg (by rintro ⟨⟩)]
    show ((decryptMnemonic password ⟨password, mnemonic⟩).bind _) = _
    rw [decryptMnemonic_sealed hmnemonic, bind_some]
    have hoverride : decryptIdentityDhOverride sdk
        (importedRow sdk bundle mnemonic password deviceKeyPair wrap identityDh nowMs)
        bundle.appDataKeyB64 = some identityDh := by
      rw [decryptIdentityDhOverride]
      cases identityDh with
      | none => rfl
      | some keyPair =>
        have hvalid : sdk.validateIdentityDhKeyPair keyPair = some keyPair := hdh
        dsimp only [importedRow, primaryRow, map_some]
        rw [opened_mk, bind_some, hvalid]
    rw [hoverride, map_some]

/-- The name in the keystore of an account is its hint, so there is nothing to heal. -/
theorem healNameHint_rows_of_same {unlocked : KeystorePayload} {row : AccountRow}
    (hrow : v.rows.get? unlocked.accountId = some row)
    (hname : unlocked.profileName = row.profileNameHint) :
    (healNameHint unlocked v).rows = v.rows := by
  rw [healNameHint, hrow]
  dsimp only
  split_ifs with hseed hhint
  · rw [hname, hhint] at hseed
    exact absurd rfl hseed.2
  · rfl
  · rfl

/-- **The import of a backup.** Where nothing fails, it inserts the row, and unlocks it. -/
theorem yields_import (accepted : Accepted sdk aead imp mnemonic f)
    (hbundle : decryptBackup sdk aead mnemonic f = some bundle) (hversion : bundle.v = 1)
    (hkey : sdk.isAppDataKey bundle.appDataKeyB64 = true)
    (hdh : bundleDhKeyPair sdk bundle = some identityDh) (hmnemonic : mnemonic ≠ "")
    (hid : trim f.accountId = f.accountId ∧ f.accountId ≠ "")
    (hlength : 8 ≤ utf16Length imp.newPassword) (hinsert : imp.insertThrows = false)
    (hnew : v.rows.has f.accountId = false) (hsafe : safe.Faithful sdk)
    (hwrap : safe.wrapAppDataKey bundle.appDataKeyB64 = some wrap) :
    ∃ v' row a, row = importedRow sdk bundle mnemonic imp.newPassword imp.deviceKeyPair wrap
        identityDh v.clockMs ∧
      a = activeAccountOf row row.keystoreEnvelope.content bundle.appDataKeyB64
        (some (deriveChatServerIdentity sdk mnemonic identityDh)) ∧
      Yields (exec (importBackup sdk safe aead imp)) v a.summary v' ∧
      v'.activeAccount = some a ∧
      v'.rows.get? f.accountId = some { row with updatedAtMs := v.clockMs } ∧
      row.opens sdk safe imp.newPassword = some a := by
  obtain ⟨hfile, hnormal, hfingerprint, -, haccount⟩ := accepted
  obtain ⟨hverifies, hlegacy⟩ := hsafe.wrapped hkey hwrap
  obtain ⟨row, hrow⟩ : ∃ row, row = importedRow sdk bundle mnemonic imp.newPassword
    imp.deviceKeyPair wrap identityDh v.clockMs := ⟨_, rfl⟩
  have hopens := importedRow_opens hmnemonic hkey hverifies (bundleDhKeyPair_self hdh) row hrow
  have hrowId : row.accountId = f.accountId := by rw [hrow]; exact haccount
  have hpassword : imp.newPassword ≠ "" := by
    rintro hempty
    rw [hempty] at hlength
    exact absurd hlength (by decide)
  -- the state in which the account is unlocked: its row is there, and its identity is kept aside
  let identity := deriveChatServerIdentity sdk mnemonic identityDh
  let v₁ := keepIdentity identity (sdk.vaultAccountId mnemonic) (addRow row v)
  have hget : v₁.rows.get? f.accountId = some { row with updatedAtMs := v.clockMs } := by
    rw [← hrowId]
    exact OrdMap.get?_set_self _ _ _
  have hload : v₁.loadAccountRow (some (sdk.vaultAccountId mnemonic)) =
      some { row with updatedAtMs := v.clockMs } := by
    rw [loadAccountRow, haccount]
    rw [show trimmed (some f.accountId) = f.accountId from hid.1, if_pos hid.2, hget]
  obtain ⟨v', unlocked, hunlock, hactive, hunlocked, hrows⟩ := yields_unlock (v := v₁) hpassword hload
    (a := activeAccountOf row row.keystoreEnvelope.content bundle.appDataKeyB64 (some identity))
    hopens (by rw [hrow]; exact hlegacy) fun p hp => by
      obtain rfl := some_inj.1 hp
      rfl
  refine ⟨v', row, _, hrow, rfl, ?_, hactive, ?_, hopens⟩
  · rw [importBackup, if_neg (not_lt.2 hlength), hfile, hnormal]
    refine yields_got ?_
    rw [if_neg (by rw [hnew]; exact Bool.false_ne_true)]
    refine yields_computed rfl ?_
    rw [if_neg (not_not.2 hfingerprint)]
    refine yields_computed hbundle ?_
    rw [if_neg (by
      rw [not_or, not_or, hkey, not_not, not_not]
      exact ⟨hversion, Bool.true_eq_false_eq_False, haccount⟩)]
    refine yields_computed hdh (yields_computed rfl (yields_computed rfl ?_))
    refine yields_computed hwrap (yields_computed rfl (yields_computed rfl ?_))
    refine yields_got ?_
    rw [← hrow]
    have hinserted : Yields (exec (insertRow imp.insertThrows row)) v ()
        (addRow row v) := by
      rw [insertRow]
      refine yields_got ?_
      rw [if_neg (by rw [hinsert, hrowId, hnew]; decide)]
      exact yields_modify _ _
    exact yields_seq hinserted (yields_modified hunlock)
  · have hcontent : unlocked = row.keystoreEnvelope.content :=
      (content_of_opened hunlocked).symm
    have hunlockedId : unlocked.accountId = f.accountId := by
      rw [hcontent, hrow]
      exact haccount
    have hname : unlocked.profileName = row.profileNameHint := by
      rw [hcontent, hrow]
      rfl
    have hhealed : (healNameHint unlocked v₁).rows = v₁.rows := by
      rw [← hunlockedId] at hget
      exact healNameHint_rows_of_same hget hname
    rw [hrows, hhealed]
    exact hget

end Import

/-! ## The round trip -/

/-- The import gives the account back: it inserts a row that opens, with the password that it was
given, to what the row that was backed up opens to, and leaves that active. -/
def GivesBack (sdk : Sdk) (safe : SafeStorage) (aead : BackupAead β) (row : AccountRow)
    (a : ActiveAccount) (imp : ImportCall) (v : Vault) : Prop :=
  ∃ v' row' a', Yields (exec (importBackup sdk safe aead imp)) v a'.summary v' ∧
    v'.activeAccount = some a' ∧ v'.rows.get? row.accountId = some row' ∧
    row'.opens sdk safe imp.newPassword = some a' ∧ Restores row row' a a'

/-- The import does not return, and the vault is as it was, whatever fails in the course of it. -/
def Refused (sdk : Sdk) (safe : SafeStorage) (aead : BackupAead β) (imp : ImportCall) (v : Vault) :
    Prop :=
  ∀ fates, (∀ summary, (exec (importBackup sdk safe aead imp) fates v).outcome ≠
    .returned summary) ∧ (exec (importBackup sdk safe aead imp) fates v).state = v

theorem refused_of_unaccepted
    (h : ∀ mnemonic f, ¬Accepted sdk aead imp mnemonic f) : Refused sdk safe aead imp v := by
  have hwp : wp (exec (importBackup sdk safe aead imp)) (fun _ _ => False)
      (fun v' => v' = v) (fun v' => v' = v) v := wp_import_refused h
  refine fun fates => ⟨fun summary hreturned => wp_returned hwp hreturned, ?_⟩
  exact wp_ending (wp_imp hwp (fun _ _ hfalse => hfalse.elim))
    fates

/-- The names of a row that is restored. -/
theorem resolvedName_restored (row row' : AccountRow) (unlocked : KeystorePayload)
    (hhint : row'.profileNameHint =
      nameOr (if row.profileNameHint = "" then "Account" else row.profileNameHint) "Account")
    (hname : unlocked.profileName = row'.profileNameHint) (old : KeystorePayload) :
    row'.resolvedName unlocked = if row.HasName then row.resolvedName old else "Account" := by
  have hself : row'.resolvedName unlocked = trim row'.profileNameHint := by
    rw [resolvedName, hname]
    split_ifs
    · rfl
    · rfl
  rw [hself, hhint, nameOr]
  by_cases hhas : row.HasName
  · have hnonempty : row.profileNameHint ≠ "" := by
      rintro hempty
      exact hhas.1 (by rw [hempty]; rfl)
    rw [if_neg hnonempty, if_neg hhas.1, trim_trim, if_pos hhas, resolvedName]
    exact (if_pos hhas).symm
  · rw [if_neg hhas]
    rw [HasName, not_and_or, not_not, not_not] at hhas
    split_ifs with hempty hblank hblank
    · rfl
    · rfl
    · rfl
    · rw [trim_trim]
      exact hhas.resolve_left hblank

theorem avatar_restored (hash : Option String) :
    (((hash.filter (· ≠ "")).map trim).filter (· ≠ "")).getD "" = trim (hash.getD "") := by
  cases hash with
  | none => rfl
  | some text =>
    by_cases hempty : text = ""
    · rw [hempty]
      rfl
    · by_cases hblank : trim text = ""
      · simp [Option.filter, hempty, hblank]
      · simp [Option.filter, hempty, hblank]

theorem avatarData_restored (data : Option String) :
    ((data.filter (· ≠ "")).filter (· ≠ "")).getD "" = data.getD "" := by
  cases data with
  | none => rfl
  | some text =>
    by_cases hempty : text = ""
    · simp [Option.filter, hempty]
    · simp [Option.filter, hempty]

/-- The row of an import restores the row that its bundle is of. -/
theorem imported_restores {row row' : AccountRow} {fingerprint appDataKey password : String}
    {identityDh : Option KeyPair} {deviceKeyPair : KeyPair} {wrap : Option String}
    {nowMs nowMs' : Int} (hrow : row.Rooted sdk mnemonic)
    (hrow' : row' = importedRow sdk (row.bundle fingerprint appDataKey identityDh nowMs)
      mnemonic password deviceKeyPair wrap identityDh nowMs') (identity : Option ChatServerIdentity) :
    Restores row { row' with updatedAtMs := nowMs' }
      (activeAccountOf row row.keystoreEnvelope.content appDataKey identity)
      (activeAccountOf row' row'.keystoreEnvelope.content appDataKey identity) := by
  have hpayload : row'.keystoreEnvelope.content = sdk.keystorePayload row'.profileNameHint
      (sdk.desktopIdentity mnemonic) deviceKeyPair := by rw [hrow']; rfl
  refine ⟨?_, ?_, ?_, rfl, rfl, ?_, ?_, ?_⟩
  · show row'.keystoreEnvelope.content.accountId = row.keystoreEnvelope.content.accountId
    rw [hrow.keystoreAccount, hrow.accountId, hpayload]
    rfl
  · show row'.keystoreEnvelope.content.identityPublicKey =
      row.keystoreEnvelope.content.identityPublicKey
    rw [hrow.publicKey, hpayload]
    rfl
  · show row'.keystoreEnvelope.content.identityKeyPair = row.keystoreEnvelope.content.identityKeyPair
    rw [hrow.keyPair, hpayload]
    rfl
  · show row'.resolvedName row'.keystoreEnvelope.content = _
    refine resolvedName_restored row row' _ ?_ ?_ _
    · rw [hrow', importedRow_profileNameHint, bundle]
    · rw [hpayload, Sdk.keystorePayload]
  · show row'.avatarFileHash.getD "" = _
    rw [hrow']
    exact avatar_restored row.avatarFileHash
  · show row'.avatarDataB64.getD "" = _
    rw [hrow']
    exact avatarData_restored row.avatarDataB64

/-- **The round trip of a backup.** What is exported of a row gives the account back, whatever the
time in its header says. With another phrase it gives nothing, and neither does a file with another
content. -/
theorem backup_roundTrip {fates : List Fate} {call : ExportCall β} {row : AccountRow}
    (hexport : (Task.exec (exportBackup sdk safe aead call) fates v).outcome = .returned file)
    (hload : v.loadAccountRow call.accountId = some row) (hrow : row.Rooted sdk mnemonic)
    (haead : ∀ bundle, row.backedUp sdk safe call.password v.clockMs = some bundle →
      aead.Seals sdk mnemonic call.nonce (backupAad row.accountId) bundle) :
    ∃ a, row.opens sdk safe call.password = some a ∧
      ∀ (safe' : SafeStorage) (imp : ImportCall) (file' : BackupEnvelope) (v' : Vault),
        imp.encryptedBackup = some file' →
        (sdk.normalizeMnemonic imp.mnemonic = some mnemonic → file.SameContent aead file' →
          8 ≤ utf16Length imp.newPassword → imp.insertThrows = false →
          v'.rows.has row.accountId = false → safe'.Faithful sdk →
          safe'.wrapAppDataKey a.appDataKey ≠ none → GivesBack sdk safe' aead row a imp v') ∧
        (sdk.normalizeMnemonic imp.mnemonic ≠ some mnemonic → file.SameContent aead file' →
          Refused sdk safe' aead imp v') ∧
        (sdk.normalizeMnemonic imp.mnemonic = some mnemonic → ¬file.SameContent aead file' →
          Refused sdk safe' aead imp v') := by
  obtain ⟨row', hload', hexported⟩ := wp_returned (wp_exportBackup call) hexport
  obtain rfl : row = row' := some_inj.1 (hload.symm.trans hload')
  obtain ⟨unlocked, phrase, appDataKey, identityDh, fingerprint, envelope, henvelope, hunlocked,
    hphrase, hkey, hdh, hfingerprint, hfilled, hfile⟩ := hexported.holds
  -- the phrase that was decrypted is the phrase of the row
  obtain rfl : phrase = mnemonic := by
    have hsealed := hrow.phrase
    rw [henvelope, map_some, decryptMnemonic_content hphrase] at hsealed
    exact some_inj.1 hsealed
  have hnonempty : phrase ≠ "" := decryptMnemonic_filled hphrase
  have hisKey : sdk.isAppDataKey appDataKey = true := decryptAppDataKey_isKey hkey
  have hcontent : row.keystoreEnvelope.content = unlocked := content_of_opened hunlocked
  have hown : row.ownIdentity sdk call.password unlocked appDataKey =
      some (some (deriveChatServerIdentity sdk phrase identityDh)) := by
    rw [ownIdentity, ← hcontent, hrow.root, if_neg (by decide), henvelope]
    simp only
    rw [hphrase, bind_some, hdh, map_some]
  have hsealed : row.backedUp sdk safe call.password v.clockMs =
      some (row.bundle fingerprint appDataKey identityDh v.clockMs) := by
    rw [backedUp, hkey, bind_some, hdh, bind_some, hfingerprint,
      map_some]
  have hprint : fingerprint = sdk.seedFingerprintB64 (sdk.mnemonicToSeed phrase) :=
    some_inj.1 (hfingerprint.symm.trans hrow.fingerprint)
  have hf : FileOf sdk aead phrase call.nonce
      (row.bundle fingerprint appDataKey identityDh v.clockMs) file :=
    ⟨haead _ hsealed, hrow.accountId, hprint, v.clockMs, hfile⟩
  refine ⟨_, opens_eq hunlocked hkey hown, fun safe' imp file' v' himp => ⟨?_, ?_, ?_⟩⟩
  · intro hmnemonic hsame hlength hinsert hnew hfaithful hwrapped
    obtain ⟨wrap, hwrap⟩ := ne_none_iff_exists'.1 hwrapped
    obtain ⟨f, haccepted, hid, hdecrypt⟩ := same_accepted hf hsame himp hmnemonic hrow.named.2 hfilled
    have hbundleDh : bundleDhKeyPair sdk
        (row.bundle fingerprint appDataKey identityDh v.clockMs) = some identityDh := by
      rw [decryptIdentityDhOverride_eq hdh]
      exact bundleDhKeyPair_bundle _ _ _ _
    have hid' : f.accountId = row.accountId := hid
    rw [← hid'] at hnew
    obtain ⟨v'', row', a', hrow', ha', hyields, hactive, hget, hopens⟩ := yields_import haccepted
      hdecrypt rfl hisKey hbundleDh hnonempty (hid' ▸ hrow.named) hlength hinsert hnew hfaithful hwrap
    rw [hid'] at hget
    refine ⟨v'', _, a', hyields, hactive, hget, hopens, ?_⟩
    rw [← hcontent, ha']
    exact imported_restores hrow hrow' _
  · exact fun hother hsame => refused_of_unaccepted (other_refused hf hsame himp hother)
  · exact fun hmnemonic haltered => refused_of_unaccepted (altered_refused hf haltered himp hmnemonic)

end Export

/-! ## Two backups -/

/-- Encryption that seals one bundle. -/
def sealing (bundle : BackupBundle) : BackupAead (Option BackupBundle) where
  toBase64 bytes := if bytes = none then "nonce" else "sealed"
  fromBase64 text :=
    if text = "nonce" then some none else if text = "sealed" then some (some bundle) else none
  deriveKey := id
  aeadEncrypt _ _ _ content := some content
  aeadDecrypt key nonce ciphertext aad :=
    if key = bundle.accountId ∧ nonce = none ∧ aad = backupAad bundle.accountId ∧
        ciphertext = some bundle then some bundle
    else none

theorem sealing_seals (bundle : BackupBundle) :
    (sealing bundle).Seals plainSdk bundle.accountId none (backupAad bundle.accountId) bundle where
  nonce_read := rfl
  ciphertext_read := rfl
  opens := if_pos ⟨rfl, rfl, rfl, rfl⟩
  authentic nonce ciphertext aad content h := by
    simp only [sealing] at h
    split_ifs at h with hall
    exact hall.2
  other mnemonic hne := if_neg fun hall => hne hall.1

/-- A row with an override, and with a name. -/
def annRow : AccountRow :=
  { primaryRow plainSdk "Ann" "password" "ann" "key" ⟨"D", "d"⟩ none 1 with
    identityDhOverride := some ⟨("key", "ann"), ⟨"X", "x"⟩⟩ }

/-- The same row from before there were name hints, with an avatar. -/
def oldRow : AccountRow := { annRow with profileNameHint := "Account", avatarFileHash := some "hash " }

def vaultWith (row : AccountRow) : Vault :=
  { fresh 2 with rows := OrdMap.empty.set row.accountId row }

def exportAnn : ExportCall (Option BackupBundle) := ⟨none, "password", none⟩

/-- The bundle and the file of a row. -/
def bundleOf (row : AccountRow) : BackupBundle := row.bundle "ann" "key" (some ⟨"X", "x"⟩) 2

def fileOf (row : AccountRow) : BackupEnvelope :=
  backupFile (sealing (bundleOf row)) "ann" none (bundleOf row) 2

def importOf (file : BackupEnvelope) : ImportCall := ⟨some file, "ann", "a new password", ⟨"E", "e"⟩, false⟩

theorem backup_roundTrip_ann :
    ∃ a, annRow.opens plainSdk noSafeStorage "password" = some a ∧
      GivesBack plainSdk noSafeStorage (sealing (bundleOf annRow)) annRow a
        (importOf (fileOf annRow)) (fresh 5) := by
  have hseals : ∀ bundle, annRow.backedUp plainSdk noSafeStorage "password" 2 = some bundle →
      (sealing (bundleOf annRow)).Seals plainSdk "ann" none (backupAad "ann") bundle := by
    intro bundle hbundle
    obtain rfl : bundleOf annRow = bundle := some_inj.1 hbundle
    exact sealing_seals (bundleOf annRow)
  have hrooted : annRow.Rooted plainSdk "ann" := ⟨rfl, rfl, by decide, rfl, rfl, rfl, rfl, rfl⟩
  have hexport : (Task.exec (exportBackup plainSdk noSafeStorage (sealing (bundleOf annRow))
      exportAnn) [] (vaultWith annRow)).outcome = .returned (fileOf annRow) := rfl
  have hfaithful : noSafeStorage.Faithful plainSdk := by
    refine ⟨fun text wrapped h => ?_, fun key hkey => ?_⟩
    · cases h
    · rw [of_decide_eq_true hkey]
      rfl
  obtain ⟨a, ha, h⟩ := backup_roundTrip hexport rfl hrooted hseals
  exact ⟨a, ha, (h noSafeStorage _ _ _ rfl).1 rfl ⟨rfl, rfl, rfl, rfl, rfl, rfl⟩ (by decide) rfl rfl
    hfaithful (by simp [SafeStorage.wrapAppDataKey, noSafeStorage])⟩

/-- **What is not kept**: a file whose time was altered is imported, and the old row comes back
under the placeholder, with its hash trimmed. -/
theorem restored_altered :
    (Task.exec (exportBackup plainSdk noSafeStorage (sealing (bundleOf oldRow)) exportAnn) []
        (vaultWith oldRow)).outcome = .returned (fileOf oldRow) ∧
      { fileOf oldRow with createdAtMs := some 7 } ≠ fileOf oldRow ∧
      ∃ a a' row' v', oldRow.opens plainSdk noSafeStorage "password" = some a ∧
        Yields (Task.exec (importBackup plainSdk noSafeStorage (sealing (bundleOf oldRow))
          (importOf { fileOf oldRow with createdAtMs := some 7 }))) (fresh 5) a'.summary v' ∧
        v'.rows.get? "ann" = some row' ∧ v'.activeAccount = some a' ∧
        a.profileName = "Ann" ∧ a'.profileName = "Account" ∧
        oldRow.avatarFileHash = some "hash " ∧ row'.avatarFileHash = some "hash" :=
  ⟨rfl, by decide, _, _, _, _, rfl, rfl, rfl, rfl, rfl, rfl, rfl, rfl⟩

end RezChat.Desktop
