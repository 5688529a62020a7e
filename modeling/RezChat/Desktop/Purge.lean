/-
Purging an account (`purgeAccount` of `desktop/runtime/DesktopSupervisor.js`, with those of
`DesktopVaultService.js` and `removeChatServerData` of `index.js`).

The vault deletes the row of an account only for one who knows its password. The data of its chat
server is in a directory that the supervisor removes, and it removes it before it asks the vault: it
disconnects, wipes the directory, and then has the password checked. So a call with a wrong password
destroys the data, and throws (`wiped_by_stranger`). It is authorized exactly where the removal
changes nothing, or the purge of the row goes through (`purgeAccount_authorized_iff`).
-/
import RezChat.Desktop.Unlock

set_option autoImplicit false

namespace RezChat.Desktop

/-- What the chat app that the supervisor holds can do. -/
structure ChatApp where
  stopChatServer : Bool
  removeChatServerData : Bool

/-- The supervisor, with its vault and the files in the data directory of the chat server. -/
structure Premises where
  vault : Vault
  chatApp : Option ChatApp
  files : List String

structure PurgeCall where
  accountId : Option String
  password : String

/-- What goes wrong in the course of a call: the disconnect, the removal, which may leave some of
the files, the derivation of the unlock key, the query of the status, and the deletion. -/
structure PurgeFaults where
  disconnect : Bool
  removal : Option (List String)
  unlock : Bool
  status : Bool
  deletion : Bool

inductive PurgeError where
  | disconnectFailed
  | passwordRequired
  | noVaultAccount
  | unlockFailed
  | statusFailed
  | deletionFailed
  | rowsDeleted (changes : Nat)

/-- `vault.purgeAccount`. It returns the id of the account that it purged. -/
def Vault.purgeAccount (faults : PurgeFaults) (call : PurgeCall) (v : Vault) :
    Except PurgeError String × Vault :=
  if call.password = "" then (.error .passwordRequired, v)
  else
    match v.loadAccountRow call.accountId with
    | none => (.error .noVaultAccount, v)
    | some row =>
      if row.keystoreEnvelope.opened call.password = none ∨ faults.unlock = true then
        (.error .unlockFailed, v)
      else if faults.status = true then (.error .statusFailed, v.lock)
      else if faults.deletion = true then (.error .deletionFailed, v.lock)
      else if v.rows.has row.accountId = false then (.error (.rowsDeleted 0), v.lock)
      else (.ok row.accountId, { v.lock with rows := v.rows.delete row.accountId })

namespace Premises

variable (faults : PurgeFaults) (s : Premises)

/-- `disconnect`. An app that cannot stop its chat server alone is given up as a whole. -/
def disconnect : Except PurgeError Unit × Premises :=
  match s.chatApp with
  | none => (.ok (), s)
  | some app =>
    let s := if app.stopChatServer = true then s else { s with chatApp := none }
    if faults.disconnect = true then (.error .disconnectFailed, s) else (.ok (), s)

/-- What is done about the data before the vault is asked. A removal that fails is logged. -/
def removeChatServerData : Premises :=
  match s.chatApp with
  | none => s
  | some app =>
    if app.removeChatServerData = true then { s with files := faults.removal.getD [] } else s

/-- `purgeAccount`. -/
def purgeAccount (call : PurgeCall) : Except PurgeError String × Premises :=
  match s.disconnect faults with
  | (.error e, s) => (.error e, s)
  | (.ok (), s) =>
    let s := s.removeChatServerData faults
    let purged := s.vault.purgeAccount faults call
    (purged.1, { s with vault := purged.2 })

/-! ## The law -/

/-- The password opens the keystore of the account. -/
def Knows (call : PurgeCall) : Prop :=
  ∃ row, s.vault.loadAccountRow call.accountId = some row ∧
    row.keystoreEnvelope.opened call.password ≠ none

/-- A call that throws changes neither the rows nor the data, and the data is changed only by one
who knows the password. -/
structure Authorized (call : PurgeCall) : Prop where
  thrown : ∀ e, (s.purgeAccount faults call).1 = .error e →
    (s.purgeAccount faults call).2.vault.rows = s.vault.rows ∧
      (s.purgeAccount faults call).2.files = s.files
  known : (s.purgeAccount faults call).2.files ≠ s.files → s.Knows call

/-- The removal finds nothing to change: the disconnect fails, or leaves no app that could remove
the data, or the removal leaves the files as they are. -/
def RemovesNothing : Prop :=
  match s.chatApp with
  | none => True
  | some app =>
    faults.disconnect = true ∨ app.stopChatServer = false ∨ app.removeChatServerData = false ∨
      faults.removal.getD [] = s.files

/-- The purge of the row goes through: the password opens the keystore of an account that is there,
and nothing fails. -/
def GoesThrough (call : PurgeCall) : Prop :=
  call.password ≠ "" ∧
    (∃ row, s.vault.loadAccountRow call.accountId = some row ∧
      row.keystoreEnvelope.opened call.password ≠ none ∧ s.vault.rows.has row.accountId = true) ∧
    faults.unlock = false ∧ faults.status = false ∧ faults.deletion = false

variable {faults s}

/-- A purge of the vault that throws leaves the rows as they are, and it goes through exactly where
it is authorized and nothing fails. -/
theorem vault_purgeAccount_cases (faults : PurgeFaults) (v : Vault) (call : PurgeCall) :
    ((∃ e, (v.purgeAccount faults call).1 = .error e) ∧
        (v.purgeAccount faults call).2.rows = v.rows ∧
        ∀ chatApp files, ¬GoesThrough faults ⟨v, chatApp, files⟩ call) ∨
      ((∃ accountId, (v.purgeAccount faults call).1 = .ok accountId) ∧
        ∀ chatApp files, GoesThrough faults ⟨v, chatApp, files⟩ call) := by
  rw [Vault.purgeAccount]
  by_cases hempty : call.password = ""
  · rw [if_pos hempty]
    exact .inl ⟨⟨_, rfl⟩, rfl, fun _ _ h => h.1 hempty⟩
  rw [if_neg hempty]
  cases hload : v.loadAccountRow call.accountId with
  | none =>
    refine .inl ⟨⟨_, rfl⟩, rfl, fun _ _ h => ?_⟩
    obtain ⟨row, hrow, -⟩ := h.2.1
    exact absurd (hload.symm.trans hrow) (by simp)
  | some row =>
    simp only
    have hsole (chatApp : Option ChatApp) (files : List String)
        (h : GoesThrough faults ⟨v, chatApp, files⟩ call) :
        row.keystoreEnvelope.opened call.password ≠ none ∧ v.rows.has row.accountId = true := by
      obtain ⟨row', hrow', hopened, hthere⟩ := h.2.1
      obtain rfl := Option.some_inj.1 (hload.symm.trans hrow')
      exact ⟨hopened, hthere⟩
    by_cases hunlock : row.keystoreEnvelope.opened call.password = none ∨ faults.unlock = true
    · rw [if_pos hunlock]
      refine .inl ⟨⟨_, rfl⟩, rfl, fun chatApp files h => ?_⟩
      rcases hunlock with hclosed | hfails
      · exact (hsole chatApp files h).1 hclosed
      · exact absurd (hfails.symm.trans h.2.2.1) (by decide)
    rw [if_neg hunlock]
    by_cases hstatus : faults.status = true
    · rw [if_pos hstatus]
      exact .inl ⟨⟨_, rfl⟩, rfl, fun _ _ h => absurd (hstatus.symm.trans h.2.2.2.1) (by decide)⟩
    rw [if_neg hstatus]
    by_cases hdeletion : faults.deletion = true
    · rw [if_pos hdeletion]
      exact .inl ⟨⟨_, rfl⟩, rfl, fun _ _ h => absurd (hdeletion.symm.trans h.2.2.2.2) (by decide)⟩
    rw [if_neg hdeletion]
    by_cases hgone : v.rows.has row.accountId = false
    · rw [if_pos hgone]
      refine .inl ⟨⟨_, rfl⟩, rfl, fun chatApp files h => ?_⟩
      exact absurd (hgone.symm.trans (hsole chatApp files h).2) (by decide)
    rw [if_neg hgone]
    rw [not_or, Bool.not_eq_true] at hunlock
    refine .inr ⟨⟨_, rfl⟩, fun _ _ => ⟨hempty, ⟨row, hload, hunlock.1, ?_⟩, hunlock.2, ?_, ?_⟩⟩
    · exact Bool.of_not_eq_false hgone
    · exact Bool.eq_false_of_not_eq_true hstatus
    · exact Bool.eq_false_of_not_eq_true hdeletion

/-- The three ways of a call: the disconnect fails, or nothing is removed, or the app removes the
data; and then the vault is asked. -/
theorem purgeAccount_cases (faults : PurgeFaults) (s : Premises) (call : PurgeCall) :
    (s.RemovesNothing faults ∧ (s.purgeAccount faults call).2.files = s.files ∧
        (s.purgeAccount faults call).2.vault = s.vault ∧
        ∃ e, (s.purgeAccount faults call).1 = .error e) ∨
      ((s.purgeAccount faults call).1 = (s.vault.purgeAccount faults call).1 ∧
        (s.purgeAccount faults call).2.vault = (s.vault.purgeAccount faults call).2 ∧
        ((s.purgeAccount faults call).2.files = s.files ↔ s.RemovesNothing faults)) := by
  cases happ : s.chatApp with
  | none =>
    refine .inr ?_
    simp [purgeAccount, disconnect, removeChatServerData, RemovesNothing, happ]
  | some app =>
    by_cases hfails : faults.disconnect = true
    · refine .inl ?_
      by_cases hstops : app.stopChatServer = true
      · simp [purgeAccount, disconnect, RemovesNothing, happ, hfails, hstops]
      · simp [purgeAccount, disconnect, RemovesNothing, happ, hfails, hstops]
    · refine .inr ?_
      by_cases hstops : app.stopChatServer = true
      · by_cases hremoves : app.removeChatServerData = true
        · simp [purgeAccount, disconnect, removeChatServerData, RemovesNothing, happ, hfails, hstops,
            hremoves]
        · simp [purgeAccount, disconnect, removeChatServerData, RemovesNothing, happ, hfails, hstops,
            hremoves]
      · simp [purgeAccount, disconnect, removeChatServerData, RemovesNothing, happ, hfails, hstops]

/-- **When a purge is authorized before it destroys**: exactly where the removal changes nothing, or
the purge of the row goes through. -/
theorem purgeAccount_authorized_iff (call : PurgeCall) :
    s.Authorized faults call ↔ s.RemovesNothing faults ∨ s.GoesThrough faults call := by
  rcases purgeAccount_cases faults s call with
    ⟨hnothing, hfiles, hvault, e, herror⟩ | ⟨hresult, hvault, hfiles⟩
  · refine iff_of_true ⟨fun _ _ => ⟨by rw [hvault], hfiles⟩, fun h => absurd hfiles h⟩ (.inl hnothing)
  · constructor
    · intro h
      rcases vault_purgeAccount_cases faults s.vault call with
        ⟨⟨e, herror⟩, -, -⟩ | ⟨-, hthrough⟩
      · exact .inl (hfiles.1 (h.thrown e (hresult.trans herror)).2)
      · exact .inr (hthrough s.chatApp s.files)
    · intro h
      have hknows : s.GoesThrough faults call → s.Knows call := fun hthrough => by
        obtain ⟨row, hload, hopened, -⟩ := hthrough.2.1
        exact ⟨row, hload, hopened⟩
      rcases vault_purgeAccount_cases faults s.vault call with
        ⟨-, hrows, hnot⟩ | ⟨⟨accountId, hok⟩, hthrough⟩
      · have hnothing := h.resolve_right (hnot s.chatApp s.files)
        refine ⟨fun _ _ => ⟨by rw [hvault]; exact hrows, hfiles.2 hnothing⟩, fun hchanged => ?_⟩
        exact absurd (hfiles.2 hnothing) hchanged
      · refine ⟨fun e he => ?_, fun _ => hknows (hthrough s.chatApp s.files)⟩
        rw [hresult, hok] at he
        cases he

end Premises

/-- A vault with an account, whose chat server has stored something. -/
def storedPremises : Premises where
  vault := { Vault.fresh 2 with
    rows := OrdMap.empty.set "ann" (Vault.primaryRow plainSdk "Ann" "password" "ann" "key" ⟨"D", "d"⟩ none 1) }
  chatApp := some ⟨true, true⟩
  files := ["identity", "messages"]

/-- **A stranger wipes the data**: the call has a wrong password and throws, the row is still there,
and the data is gone. -/
theorem wiped_by_stranger :
    (storedPremises.purgeAccount ⟨false, none, false, false, false⟩ ⟨some "ann", "a guess"⟩).1 =
        .error .unlockFailed ∧
      (storedPremises.purgeAccount ⟨false, none, false, false, false⟩ ⟨some "ann", "a guess"⟩).2.vault.rows =
        storedPremises.vault.rows ∧
      (storedPremises.purgeAccount ⟨false, none, false, false, false⟩ ⟨some "ann", "a guess"⟩).2.files = [] ∧
      ¬storedPremises.Authorized ⟨false, none, false, false, false⟩ ⟨some "ann", "a guess"⟩ := by
  refine ⟨rfl, rfl, rfl, fun h => ?_⟩
  exact absurd (h.thrown .unlockFailed rfl).2 (by decide)

end RezChat.Desktop
