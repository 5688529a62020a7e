/-
The stored identity of the chat server (`server/identity/ChatServerIdentity.js`,
`records/domain/StoredServerIdentity.js`, and the storage key in
`server/bootstrap/bootstrapChatServer.js`).

The chat server keeps its identity in its own storage, and each boot hands in the one that the
vault expects. There are two kinds: a primary identity holds the account's private key, a
delegated one holds none and is bound to a device. A stored record that has no kind is a primary
one, from before there were two.

The key that the storage is encrypted under is derived from the private key of the identity, or of
the device.
-/
import RezChat.Inbox.Frame

set_option autoImplicit false

namespace RezChat.Desktop

open Except

open Inbox (trimmed trim_trimmed)

/-! ## The record -/

/-- An identity as plain data. A field that is missing is `none`, and `hasAdminRoot` is `some false`
only where it is the literal. -/
structure IdentityBlob where
  accountId : Option String
  deviceId : Option String
  publicKeyB64 : Option String
  privateKeyB64 : Option String
  hasAdminRoot : Option Bool

/-- It is a delegated identity. -/
def IdentityBlob.Delegated (b : IdentityBlob) : Prop := b.hasAdminRoot = some false

instance (b : IdentityBlob) : Decidable b.Delegated :=
  inferInstanceAs (Decidable (b.hasAdminRoot = some false))

/-- `String(identity.accountId || "?")`. -/
def IdentityBlob.accountIdText (b : IdentityBlob) : String :=
  match b.accountId with
  | none => "?"
  | some accountId => if accountId = "" then "?" else accountId

structure StoredServerIdentity where
  accountId : String
  deviceId : String
  publicKeyB64 : String
  privateKeyB64 : String
  hasAdminRoot : Bool
  accountId_ne : accountId ≠ ""
  deviceId_ne : deviceId ≠ ""
  publicKeyB64_ne : publicKeyB64 ≠ ""
  privateKeyB64_iff : privateKeyB64 = "" ↔ hasAdminRoot = false

/-- The constructor, which throws where `validate` does. -/
def StoredServerIdentity.new (raw : IdentityBlob) : Except String StoredServerIdentity :=
  if ha : trimmed raw.accountId = "" then .error "StoredServerIdentity requires accountId"
  else if hd : trimmed raw.deviceId = "" then .error "StoredServerIdentity requires deviceId"
  else if hp : trimmed raw.publicKeyB64 = "" then
    .error "StoredServerIdentity requires publicKeyB64"
  else if hroot : raw.Delegated then
    if hk : trimmed raw.privateKeyB64 = "" then
      .ok
        { accountId := trimmed raw.accountId
          deviceId := trimmed raw.deviceId
          publicKeyB64 := trimmed raw.publicKeyB64
          privateKeyB64 := trimmed raw.privateKeyB64
          hasAdminRoot := false
          accountId_ne := ha
          deviceId_ne := hd
          publicKeyB64_ne := hp
          privateKeyB64_iff := iff_of_true hk rfl }
    else .error "StoredServerIdentity delegated row must not carry privateKeyB64"
  else if hk : trimmed raw.privateKeyB64 = "" then
    .error "StoredServerIdentity requires privateKeyB64"
  else
    .ok
      { accountId := trimmed raw.accountId
        deviceId := trimmed raw.deviceId
        publicKeyB64 := trimmed raw.publicKeyB64
        privateKeyB64 := trimmed raw.privateKeyB64
        hasAdminRoot := true
        accountId_ne := ha
        deviceId_ne := hd
        publicKeyB64_ne := hp
        privateKeyB64_iff := iff_of_false hk (by simp) }

/-! ## Loading -/

/-- What is around a boot: what the store holds or throws, what a write throws, and what is drawn
at random. -/
structure IdentityEnv where
  get : Except String (Option IdentityBlob)
  set : Option String
  generated : IdentityBlob
  randomDeviceId : String

namespace IdentityEnv

variable (env : IdentityEnv)

/-- Write the record, and return it. -/
def save (record : StoredServerIdentity) : Except String StoredServerIdentity :=
  match env.set with
  | some err => .error err
  | none => .ok record

/-- The expected identity is stored as it is. -/
def adopt (expected : IdentityBlob) : Except String StoredServerIdentity :=
  let expectedAccountId := trimmed expected.accountId
  let expectedPub := trimmed expected.publicKeyB64
  let expectedPriv := trimmed expected.privateKeyB64
  if expected.Delegated then
    if expectedPriv ≠ "" then
      .error "ensureChatServerIdentity: a delegated expectedIdentity must not carry privateKeyB64"
    else
      let delegatedDeviceId := trimmed expected.deviceId
      if expectedAccountId = "" ∨ expectedPub = "" ∨ delegatedDeviceId = "" then
        .error ("ensureChatServerIdentity: a delegated expectedIdentity must include accountId, " ++
          "publicKeyB64, deviceId")
      else do
        let record ← StoredServerIdentity.new
          ⟨some expectedAccountId, some delegatedDeviceId, some expectedPub, some "", some false⟩
        env.save record
  else if expectedAccountId = "" ∨ expectedPub = "" ∨ expectedPriv = "" then
    .error ("ensureChatServerIdentity: expectedIdentity must include accountId, publicKeyB64, " ++
      "privateKeyB64")
  else do
    let record ← StoredServerIdentity.new
      ⟨some expectedAccountId, some ("dev:" ++ env.randomDeviceId), some expectedPub,
        some expectedPriv, none⟩
    env.save record

/-- `ensureChatServerIdentity`, once it has the stored record. -/
def resolve (storedRecord : Option StoredServerIdentity) (expected : Option IdentityBlob)
    (allowOverwrite : Bool) : Except String StoredServerIdentity :=
  match storedRecord, expected with
  | some record, none => .ok record
  | some record, some expected =>
    if trimmed expected.publicKeyB64 = "" then
      .error "ensureChatServerIdentity: expectedIdentity is missing publicKeyB64"
    else if record.publicKeyB64 = trimmed expected.publicKeyB64 then .ok record
    else if allowOverwrite = false then
      .error ("ensureChatServerIdentity: stored chat-server identity does not match " ++
        "expectedIdentity (stored=" ++ record.accountId ++ " expected=" ++
        expected.accountIdText ++ "). Pass allowOverwrite=true to rotate.")
    else env.adopt expected
  | none, some expected => env.adopt expected
  | none, none => do
    let record ← StoredServerIdentity.new
      { env.generated with deviceId := some ("dev:" ++ env.randomDeviceId), hasAdminRoot := none }
    env.save record

/-- The stored value as a record, if it is one: what is corrupt counts as absent. -/
def storedRecord : Option IdentityBlob → Option StoredServerIdentity
  | none => none
  | some blob =>
    match StoredServerIdentity.new blob with
    | .ok record => some record
    | .error _ => none

def ensureChatServerIdentity (expected : Option IdentityBlob) (allowOverwrite : Bool) :
    Except String StoredServerIdentity :=
  match env.get with
  | .error err => .error err
  | .ok stored => env.resolve (storedRecord stored) expected allowOverwrite

end IdentityEnv

/-! ## The storage key -/

structure DeviceKey where
  deviceId : String
  publicKeyB64 : String
  privateKeyB64 : String

/-- What the storage key is derived from. -/
structure StorageKeyMaterial where
  salt : String
  privateKeyB64 : String

/-- The head of `bootstrapChatServer`, up to the storage key. -/
def IdentityEnv.storageKeyMaterial (env : IdentityEnv) (expected : Option IdentityBlob)
    (certChain : List String) (deviceKey : Option DeviceKey) (allowRotation : Bool) :
    Except String StorageKeyMaterial :=
  match expected with
  | some e =>
    if e.Delegated then
      match deviceKey with
      | none =>
        .error ("bootstrapChatServer: a delegated chat-server identity requires deviceKey (the " ++
          "device key C is its only signer)")
      | some key =>
        if key.publicKeyB64 = "" ∨ key.privateKeyB64 = "" ∨ key.deviceId = "" then
          .error ("bootstrapChatServer: a delegated chat-server identity requires deviceKey (the " ++
            "device key C is its only signer)")
        else if certChain = [] then
          .error ("bootstrapChatServer: a delegated chat-server identity requires a non-empty " ++
            "certChain")
        else do
          let _ ← env.ensureChatServerIdentity (some { e with deviceId := some key.deviceId })
            allowRotation
          .ok ⟨"rez:chat-server:storage:delegated:v1", key.privateKeyB64⟩
    else do
      let identity ← env.ensureChatServerIdentity (some e) allowRotation
      .ok ⟨"rez:chat-server:storage:v1", identity.privateKeyB64⟩
  | none => do
    let identity ← env.ensureChatServerIdentity none allowRotation
    .ok ⟨"rez:chat-server:storage:v1", identity.privateKeyB64⟩

/-! ## The law -/

/-- An identity that may be expected: a primary one with its private key, or a delegated one with
its device and no private key. -/
structure IdentityBlob.Valid (e : IdentityBlob) : Prop where
  accountId : trimmed e.accountId ≠ ""
  publicKeyB64 : trimmed e.publicKeyB64 ≠ ""
  privateKeyB64 : trimmed e.privateKeyB64 = "" ↔ e.Delegated
  deviceId : e.Delegated → trimmed e.deviceId ≠ ""

/-- The identity is the expected one. -/
structure StoredServerIdentity.Agrees (i : StoredServerIdentity) (e : IdentityBlob) : Prop where
  accountId : i.accountId = trimmed e.accountId
  publicKeyB64 : i.publicKeyB64 = trimmed e.publicKeyB64
  privateKeyB64 : i.privateKeyB64 = trimmed e.privateKeyB64
  hasAdminRoot : i.hasAdminRoot = false ↔ e.Delegated
  deviceId : e.Delegated → i.deviceId = trimmed e.deviceId

/-- The store holds a record with the expected public key that is not the expected identity. -/
def IdentityEnv.Clashes (env : IdentityEnv) (e : IdentityBlob) : Prop :=
  ∃ blob record, env.get = .ok (some blob) ∧ StoredServerIdentity.new blob = .ok record ∧
    record.publicKeyB64 = trimmed e.publicKeyB64 ∧ ¬record.Agrees e

/-- The private key that the storage key is to be derived from. -/
def IdentityBlob.ownKey (e : IdentityBlob) (deviceKey : Option DeviceKey) : String :=
  if e.Delegated then (deviceKey.map DeviceKey.privateKeyB64).getD "" else trimmed e.privateKeyB64

namespace StoredServerIdentity

variable {raw e : IdentityBlob} {record : StoredServerIdentity}

/-- A record has the fields that it was built from. -/
theorem agrees_new (h : StoredServerIdentity.new raw = .ok record) : record.Agrees raw := by
  rw [new] at h
  by_cases ha : trimmed raw.accountId = ""
  · rw [dif_pos ha] at h
    cases h
  by_cases hd : trimmed raw.deviceId = ""
  · rw [dif_neg ha, dif_pos hd] at h
    cases h
  by_cases hp : trimmed raw.publicKeyB64 = ""
  · rw [dif_neg ha, dif_neg hd, dif_pos hp] at h
    cases h
  rw [dif_neg ha, dif_neg hd, dif_neg hp] at h
  by_cases hroot : raw.Delegated
  · rw [dif_pos hroot] at h
    by_cases hk : trimmed raw.privateKeyB64 = ""
    · rw [dif_pos hk] at h
      obtain rfl := ok.inj h
      exact ⟨rfl, rfl, rfl, iff_of_true rfl hroot, fun _ => rfl⟩
    · rw [dif_neg hk] at h
      cases h
  · rw [dif_neg hroot] at h
    by_cases hk : trimmed raw.privateKeyB64 = ""
    · rw [dif_pos hk] at h
      cases h
    · rw [dif_neg hk] at h
      obtain rfl := ok.inj h
      exact ⟨rfl, rfl, rfl, iff_of_false (by simp) hroot, fun _ => rfl⟩

end StoredServerIdentity

namespace IdentityEnv

variable {env : IdentityEnv} {e : IdentityBlob} {record : StoredServerIdentity}

theorem save_eq_ok {record' : StoredServerIdentity} (h : env.save record = .ok record') :
    record' = record := by
  rw [save] at h
  cases hset : env.set with
  | some err =>
    rw [hset] at h
    cases h
  | none =>
    rw [hset] at h
    exact (ok.inj h).symm

/-- What is stored anew is built from the fields it was given. -/
theorem save_new {raw : IdentityBlob}
    (h : (StoredServerIdentity.new raw >>= fun record => env.save record) = .ok record) :
    record.Agrees raw := by
  cases hnew : StoredServerIdentity.new raw with
  | error err =>
    rw [hnew] at h
    cases h
  | ok record' =>
    rw [hnew] at h
    rw [save_eq_ok h]
    exact StoredServerIdentity.agrees_new hnew

/-- What is adopted is the expected identity. -/
theorem adopt_agrees (h : env.adopt e = .ok record) : record.Agrees e := by
  rw [adopt] at h
  simp only at h
  by_cases hroot : e.Delegated
  · rw [if_pos hroot] at h
    by_cases hpriv : trimmed e.privateKeyB64 ≠ ""
    · rw [if_pos hpriv] at h
      cases h
    rw [if_neg hpriv] at h
    split at h
    · cases h
    · have hnew := save_new h
      rw [ne_eq, not_not] at hpriv
      exact
        { accountId := hnew.accountId.trans (trim_trimmed e.accountId)
          publicKeyB64 := hnew.publicKeyB64.trans (trim_trimmed e.publicKeyB64)
          privateKeyB64 := by rw [hnew.privateKeyB64, hpriv]; rfl
          hasAdminRoot := iff_of_true (hnew.hasAdminRoot.2 rfl) hroot
          deviceId := fun _ => (hnew.deviceId rfl).trans (trim_trimmed e.deviceId) }
  · rw [if_neg hroot] at h
    split at h
    · cases h
    · have hnew := save_new h
      exact
        { accountId := hnew.accountId.trans (trim_trimmed e.accountId)
          publicKeyB64 := hnew.publicKeyB64.trans (trim_trimmed e.publicKeyB64)
          privateKeyB64 := hnew.privateKeyB64.trans (trim_trimmed e.privateKeyB64)
          hasAdminRoot := iff_of_false (fun hfalse => nomatch hnew.hasAdminRoot.1 hfalse) hroot
          deviceId := fun hdelegated => absurd hdelegated hroot }

/-- What is returned is the expected identity, or was stored under its public key. -/
theorem ensure_cases {allowOverwrite : Bool}
    (h : env.ensureChatServerIdentity (some e) allowOverwrite = .ok record) :
    record.Agrees e ∨
      ∃ blob, env.get = .ok (some blob) ∧ StoredServerIdentity.new blob = .ok record ∧
        record.publicKeyB64 = trimmed e.publicKeyB64 := by
  have hadopt : env.adopt e = .ok record → record.Agrees e := adopt_agrees
  rw [ensureChatServerIdentity] at h
  cases hget : env.get with
  | error err =>
    rw [hget] at h
    cases h
  | ok stored =>
    rw [hget] at h
    cases stored with
    | none => exact .inl (hadopt h)
    | some blob =>
      simp only [storedRecord] at h
      cases hnew : StoredServerIdentity.new blob with
      | error err =>
        rw [hnew] at h
        exact .inl (hadopt h)
      | ok kept =>
        rw [hnew] at h
        simp only [resolve] at h
        by_cases hempty : trimmed e.publicKeyB64 = ""
        · rw [if_pos hempty] at h
          cases h
        rw [if_neg hempty] at h
        by_cases hpub : kept.publicKeyB64 = trimmed e.publicKeyB64
        · rw [if_pos hpub] at h
          obtain rfl := ok.inj h
          exact .inr ⟨blob, rfl, hnew, hpub⟩
        rw [if_neg hpub] at h
        by_cases hallow : allowOverwrite = false
        · rw [if_pos hallow] at h
          cases h
        · rw [if_neg hallow] at h
          exact .inl (hadopt h)

/-- A record under the expected public key is returned as it is. -/
theorem ensure_stored {blob : IdentityBlob} (hget : env.get = .ok (some blob))
    (hnew : StoredServerIdentity.new blob = .ok record) (hpub : trimmed e.publicKeyB64 ≠ "")
    (heq : record.publicKeyB64 = trimmed e.publicKeyB64) (allowOverwrite : Bool) :
    env.ensureChatServerIdentity (some e) allowOverwrite = .ok record := by
  rw [ensureChatServerIdentity, hget]
  simp only [storedRecord, hnew, resolve]
  rw [if_neg hpub, if_pos heq]

/-- The storage key of a delegated identity is the device's, and that of a primary one is the
returned identity's. -/
theorem storageKeyMaterial_cases {certChain : List String} {deviceKey : Option DeviceKey}
    {allowRotation : Bool} {material : StorageKeyMaterial}
    (h : env.storageKeyMaterial (some e) certChain deviceKey allowRotation = .ok material) :
    (e.Delegated ∧ material.privateKeyB64 = e.ownKey deviceKey ∧ material.privateKeyB64 ≠ "") ∨
      (¬e.Delegated ∧ ∃ record, env.ensureChatServerIdentity (some e) allowRotation = .ok record ∧
        material.privateKeyB64 = record.privateKeyB64) := by
  simp only [storageKeyMaterial] at h
  by_cases hroot : e.Delegated
  · rw [if_pos hroot] at h
    refine .inl ⟨hroot, ?_⟩
    cases deviceKey with
    | none => cases h
    | some key =>
      simp only at h
      split at h
      · cases h
      · rename_i hkey
        split at h
        · cases h
        · cases hensure : env.ensureChatServerIdentity
            (some { e with deviceId := some key.deviceId }) allowRotation with
          | error err =>
            rw [hensure] at h
            cases h
          | ok record =>
            rw [hensure] at h
            obtain rfl := ok.inj h
            rw [not_or, not_or] at hkey
            exact ⟨by rw [IdentityBlob.ownKey, if_pos hroot]; rfl, hkey.2.1⟩
  · rw [if_neg hroot] at h
    refine .inr ⟨hroot, ?_⟩
    cases hensure : env.ensureChatServerIdentity (some e) allowRotation with
    | error err =>
      rw [hensure] at h
      cases h
    | ok record =>
      rw [hensure] at h
      obtain rfl := ok.inj h
      exact ⟨record, rfl, rfl⟩

/-- **The stored identity is the expected one**, and the storage key is derived from its own key
material, exactly if the store does not hold another identity under the expected public key. -/
theorem ensureChatServerIdentity_agrees_iff (env : IdentityEnv) (e : IdentityBlob) (he : e.Valid)
    (certChain : List String) (deviceKey : Option DeviceKey) (allow : Bool) :
    ((∀ record, env.ensureChatServerIdentity (some e) allow = .ok record → record.Agrees e) ∧
      ∀ material, env.storageKeyMaterial (some e) certChain deviceKey allow = .ok material →
        material.privateKeyB64 ≠ "" ∧ material.privateKeyB64 = e.ownKey deviceKey) ↔
      ¬env.Clashes e := by
  constructor
  · rintro ⟨hagrees, -⟩ ⟨blob, record, hget, hnew, hpub, hnot⟩
    exact hnot (hagrees record (ensure_stored hget hnew he.publicKeyB64 hpub allow))
  · intro hclash
    have hagrees : ∀ record, env.ensureChatServerIdentity (some e) allow = .ok record →
        record.Agrees e := by
      intro record h
      rcases ensure_cases h with hagrees | ⟨blob, hget, hnew, hpub⟩
      · exact hagrees
      · by_contra hnot
        exact hclash ⟨blob, record, hget, hnew, hpub, hnot⟩
    refine ⟨hagrees, fun material h => ?_⟩
    rcases storageKeyMaterial_cases h with ⟨-, hown, hne⟩ | ⟨hroot, record, hensure, hkey⟩
    · exact ⟨hne, hown⟩
    · have hpriv : trimmed e.privateKeyB64 ≠ "" := fun hempty => hroot (he.privateKeyB64.1 hempty)
      rw [hkey, (hagrees record hensure).privateKeyB64, IdentityBlob.ownKey, if_neg hroot]
      exact ⟨hpriv, rfl⟩

/-- The store of a device that was linked to an account, when the account itself is restored on
it. -/
def linkedBefore : IdentityEnv where
  get := .ok (some ⟨some "acct:ann", some "dev:1", some "annPub", none, some false⟩)
  set := none
  generated := ⟨none, none, none, none, none⟩
  randomDeviceId := "00"

def restored : IdentityBlob := ⟨some "acct:ann", none, some "annPub", some "annPriv", none⟩

/-- The same account on a store with nothing in it. -/
theorem ensureChatServerIdentity_agrees_fresh :
    ((∀ record, { linkedBefore with get := .ok none }.ensureChatServerIdentity (some restored)
        true = .ok record → record.Agrees restored) ∧
      ∀ material, { linkedBefore with get := .ok none }.storageKeyMaterial (some restored) []
          none true = .ok material →
        material.privateKeyB64 ≠ "" ∧ material.privateKeyB64 = restored.ownKey none) ↔
      ¬{ linkedBefore with get := .ok none }.Clashes restored :=
  ensureChatServerIdentity_agrees_iff _ restored
    ⟨by decide, by decide, by decide, by decide⟩ [] none true

theorem restored_on_linked :
    ¬((∀ record, linkedBefore.ensureChatServerIdentity (some restored) true = .ok record →
        record.Agrees restored) ∧
      ∀ material, linkedBefore.storageKeyMaterial (some restored) [] none true = .ok material →
        material.privateKeyB64 ≠ "" ∧ material.privateKeyB64 = restored.ownKey none) := by
  rintro ⟨-, hkey⟩
  exact (hkey ⟨"rez:chat-server:storage:v1", ""⟩ rfl).1 rfl

end IdentityEnv

end RezChat.Desktop
