/-
What the page shows, what is unlocked, and what is connected
(`ui/services/bus/SessionService.js`, `ui/services/auth/AccountAuthService.js`).

The three are in three places, and a call changes them one after the other. They agree after a call
that was not rejected, but a call that is rejected puts back only what it thinks of: `unlock` and
`restoreWithMnemonic` show the session as locked and let the account be that was unlocked before
(`locked_over_account`); `createAccount` and `linkDevice` leave it shown as being unlocked;
`changePassword` and `purgeAccount` have disconnected the runtime before they look at the password.

They agree in every run in which no call that unlocks is rejected while an account is, none of these
calls is refused where it changes what it does not put back, and nothing fails in between a change
and what is to follow it (`run_agrees`).
-/
import RezChat.Browser.Passwords
import RezChat.Browser.Session

set_option autoImplicit false

namespace RezChat.Browser.Session

open Browser SessionStore Session World Bool
open Inbox (trim trim_trim)
open Contacts (utf16Length)
open List Option Proc RezChat.Task

/-! ## The law -/

/-- The three agree: the session is shown as unlocked where an account is, and that one; and where
it is not, no runtime is connected. -/
structure Agrees (w : World) : Prop where
  unlocked : w.session.status = .unlocked ↔ w.account.isSome = true
  account : ∀ a, w.account = some a → w.session.accountId = some a.accountId
  offline : w.session.status ≠ .unlocked → w.sdkClient = none ∧ w.running = []

/-- They are as they were. -/
structure Untouched (w w' : World) : Prop where
  status : w'.session.status = w.session.status
  account : w'.account = w.account
  sdkClient : w'.sdkClient = w.sdkClient
  running : w'.running = w.running

inductive AuthOp where
  | unlock (accountId : Option String) (password : String)
  | createAccount (call : CreateCall) (confirmPassword : String)
  | linkDevice (call : LinkCall) (confirmPassword : String)
  | restoreWithMnemonic (call : RestoreCall)
  | changePassword (oldPassword newPassword : String)
  | purgeAccount (accountId : Option String) (password : String)
  | lock

/-- The call. -/
def AuthOp.call (sdk : Sdk) : AuthOp → Task World (Option Nat)
  | unlock accountId password => Session.unlock sdk accountId password
  | createAccount call confirmPassword => Session.createAccount sdk call confirmPassword
  | linkDevice call confirmPassword => Session.linkDevice sdk call confirmPassword
  | restoreWithMnemonic call => Session.restoreWithMnemonic sdk call
  | changePassword oldPassword newPassword => Session.changePassword oldPassword newPassword
  | purgeAccount accountId password => Session.purgeAccount accountId password
  | lock => Session.lock 0

/-- A connect that fails is warned of. -/
def connectAfter : Option Nat → Task World Unit
  | some connectSeq => tryCatch (pure ()) (connectRuntimeAfterUnlock connectSeq)
  | none => pure ()

/-- The call, and the connect that it starts, if it does. -/
def AuthOp.task (sdk : Sdk) (op : AuthOp) : Task World Unit := op.call sdk >>= connectAfter

/-- A call, with what becomes of its awaits. Where the page dies, it is loaded again. -/
def step (sdk : Sdk) (w : World) (e : AuthOp × List Fate) : World :=
  match (exec (e.1.task sdk) e.2 w).outcome with
  | .died => (exec (e.1.task sdk) e.2 w).state.reloaded
  | _ => (exec (e.1.task sdk) e.2 w).state

/-- The password that is given does not open the slot. -/
def WrongPassword (w : World) (slot password : String) : Prop :=
  ∃ v, w.envelope (keystoreKey slot) = some v ∧ v.openAccount password = none

/-- The call is given a wrong password or invalid input. -/
def Refused (sdk : Sdk) (w : World) : AuthOp → Prop
  | .unlock accountId password =>
    trim password = "" ∨ WrongPassword w (unlockSlot accountId w.session) (trim password)
  | .createAccount call confirmPassword => call.password ≠ confirmPassword ∨
    trim call.profileName = "" ∨ call.password = "" ∨ utf16Length call.password < 8
  | .linkDevice call confirmPassword => call.password ≠ confirmPassword ∨
    trim call.linkCode = "" ∨ trim call.profileName = "" ∨ utf16Length call.password < 8
  | .restoreWithMnemonic call =>
    utf16Length call.newPassword < 8 ∨ sdk.accountIdOf call.mnemonic = none
  | .changePassword oldPassword newPassword => resolveAccountId w.session = "" ∨
    oldPassword = "" ∨ utf16Length newPassword < 8 ∨ oldPassword = newPassword ∨
    WrongPassword w (resolveStoreKey (some (resolveAccountId w.session)) w.session) oldPassword
  | .purgeAccount accountId password => purgeTarget accountId w.session = "" ∨ password = "" ∨
    WrongPassword w (resolveStoreKey (some (purgeTarget accountId w.session)) w.session) password
  | .lock => False

/-- The law of a step: the three agree after it, and a call that is refused leaves them as they
were, unless the page dies. -/
structure Lawful (sdk : Sdk) (w : World) (e : AuthOp × List Fate) : Prop where
  agrees : Agrees (step sdk w e)
  refused : Refused sdk w e.1 → (exec (e.1.task sdk) e.2 w).outcome = .died ∨
    Untouched w (step sdk w e)

/-! ## The condition -/

/-- What a call that is refused does not put back is as it leaves it. -/
def Harmless (w : World) : AuthOp → Prop
  | .unlock _ _ => w.session.status = .locked
  | .createAccount call confirmPassword =>
    call.password ≠ confirmPassword ∨ w.session.status = .unlocking
  | .linkDevice call confirmPassword =>
    call.password ≠ confirmPassword ∨ w.session.status = .unlocking
  | .restoreWithMnemonic _ => w.session.status = .locked
  | .changePassword _ _ => resolveAccountId w.session = "" ∨ w.sdkClient = none
  | .purgeAccount accountId _ => purgeTarget accountId w.session = "" ∨ w.sdkClient = none
  | .lock => True

/-- What a call does until it has unlocked an account. -/
def AuthOp.opening (sdk : Sdk) : AuthOp → Task World Unit
  | unlock accountId password => do
    modify authStarted
    modify (onSession setUnlocking)
    let _ ← Browser.unlock sdk accountId password
    pure ()
  | createAccount call confirmPassword => do
    modify authStarted
    if call.password ≠ confirmPassword then pure ()
    else do
      modify (onSession setUnlocking)
      let storeKey ← createSlot sdk call
      let _ ← Browser.unlock sdk (some storeKey) call.password
      pure ()
  | linkDevice call confirmPassword => do
    modify authStarted
    if call.password ≠ confirmPassword then pure ()
    else do
      modify (onSession setUnlocking)
      let storeKey ← linkSlot call
      let _ ← Browser.unlock sdk (some storeKey) call.password
      pure ()
  | restoreWithMnemonic call => do
    modify authStarted
    modify nextConnect
    disconnectRuntimeForAuthOperation
    modify (onSession setUnlocking)
    let storeKey ← restoreSlot sdk call
    let _ ← Browser.unlock sdk (some storeKey) call.newPassword
    pure ()
  | _ => pure ()

/-- Where its awaits come to this, the call is not rejected. -/
structure Unrejected {α : Type} (t : Task World α) (fates : List Fate) (w : World) : Prop where
  ends : Ends (exec t) (fun _ _ _ => True) (fun _ _ => False) (fun _ _ => True) fates w

/-- The condition: a call that is refused is so where that does no harm; one that unlocks is not
rejected while an account is unlocked; and no call fails halfway, nor is a runtime left running. -/
structure Spared (sdk : Sdk) (w : World) (e : AuthOp × List Fate) : Prop where
  harmless : Refused sdk w e.1 → Harmless w e.1
  unrejected : w.account.isSome = true → Unrejected (e.1.opening sdk) e.2 w
  whole : (step sdk w e).watch.halfway = false
  stopped : (step sdk w e).watch.leaked = false

/-! ## What becomes of a call of the account service -/

/-- The runtime is left alone, and what is left running is not forgotten. -/
structure Aside (w s : World) : Prop where
  sdkClient : s.sdkClient = w.sdkClient
  connectedIdentity : s.connectedIdentity = w.connectedIdentity
  running : s.running = w.running
  leaked : s.watch.leaked = w.watch.leaked

theorem Aside.refl (w : World) : Aside w w := ⟨rfl, rfl, rfl, rfl⟩

theorem Aside.trans {w s s' : World} (h : Aside w s) (h' : Aside s s') : Aside w s' :=
  ⟨h'.sdkClient.trans h.sdkClient, h'.connectedIdentity.trans h.connectedIdentity,
    h'.running.trans h.running, h'.leaked.trans h.leaked⟩

/-- The account is held, and shown. -/
structure Shows (a : Account) (w : World) : Prop where
  status : w.session.status = .unlocked
  account : w.account = some a
  accountId : w.session.accountId = some a.accountId

/-- What a call leaves that is rejected: an account that it has unlocked, or what was held before it,
with no account shown, unless it failed halfway. -/
def Rejected (w s : World) : Prop :=
  s.watch.halfway = true ∨ (s.account = w.account ∧ s.session.status ≠ .unlocked) ∨ ∃ a, Shows a s

/-- What a call leaves of the session and the runtime that only writes to the storage. -/
structure Still (w s : World) : Prop where
  aside : Aside w s
  account : s.account = w.account
  session : s.session = w.session
  halfway : s.watch.halfway = w.watch.halfway

theorem still_of_stored {w s : World} (h : Stored w s) : Still w s := by
  obtain ⟨storage, databases, rfl⟩ := h
  exact ⟨⟨rfl, rfl, rfl, rfl⟩, rfl, rfl, rfl⟩

variable {a : Account}

theorem Still.shows {w s : World} (h : Still w s) (ha : Shows a w) : Shows a s := by
  refine ⟨?_, ?_, ?_⟩
  · rw [h.session]
    exact ha.status
  · rw [h.account]
    exact ha.account
  · rw [h.session]
    exact ha.accountId

theorem wp_stored {α : Type} {t : Task World α} (h : Within Stored t) (w : World) :
    wp (exec t) (fun _ s => Still w s) (fun s => Still w s) (fun s => Still w s) w :=
  wp_mono (h.wp Stored.refl (fun _ _ _ => Stored.trans) w w (Stored.refl w))
    (fun _ _ hs => still_of_stored hs) (fun _ hs => still_of_stored hs) fun _ hs => still_of_stored hs

-- `Ends` is looked at through its rules here, as `wp` is
attribute [local irreducible] Ends

variable {sdk : Sdk} {w : World}

/-- What `unlock` does with an account that has opened. -/
theorem admit_shows (a : Account) (slot : String) (v : Value) (isLocalOnly : Bool) (w : World) :
    wp (exec (admitAccount a slot v isLocalOnly))
      (fun u s => Aside w s ∧ Shows a s ∧ u = ⟨a.accountId, a.deviceId⟩)
      (fun s => Aside w s ∧ s.watch.halfway = true) (fun _ => True) w := by
  have hkept : Shows a (w.keepAccount a slot) := by
    refine ⟨rfl, rfl, ?_⟩
    show some (trim a.accountId) = some a.accountId
    rw [a.accountId_isId.1]
  have haside : Aside w (w.keepAccount a slot) := ⟨rfl, rfl, rfl, rfl⟩
  refine wp_modified (wp_seq (K := fun _ s => Aside w s ∧ Shows a s) ?_ ?_)
  · refine wp_halfway (wp_mono (wp_stored (stored_setAccountIdHint _ _) _) ?_ ?_
      fun _ _ => trivial)
    · exact fun _ s hs => ⟨haside.trans hs.aside, hs.shows hkept⟩
    · rintro s hs
      refine ⟨(haside.trans hs.aside).trans ⟨rfl, rfl, rfl, rfl⟩, ?_⟩
      show (s.watch.halfway || decide (s.session.status = .unlocked)) = true
      rw [decide_eq_true (hs.shows hkept).status, Bool.or_true]
  · rintro - s ⟨hs, hshows⟩
    refine wp_modified (wp_pure ⟨hs.trans ⟨rfl, rfl, rfl, rfl⟩, ?_, ?_⟩)
    · exact ⟨hshows.status, hshows.account, hshows.accountId⟩
    · rw [a.accountId_isId.1, a.deviceId_isId.1]

/-- **Unlocking.** Where it returns, the account is held and shown. Where it is rejected, what was
held is held, and no account is shown. -/
theorem unlock_shows (uid : Option String) (q : String) (hstatus : w.session.status ≠ .unlocked) :
    wp (Task.exec (Browser.unlock sdk uid q))
      (fun u s => Aside w s ∧ ∃ a, Shows a s ∧ u = ⟨a.accountId, a.deviceId⟩)
      (fun s => Aside w s ∧ Rejected w s) (fun _ => True) w := by
  have hstill : ∀ {s}, Still w s → Aside w s ∧ Rejected w s := fun {s} hs =>
    ⟨hs.aside, .inr (.inl ⟨hs.account, hs.session ▸ hstatus⟩)⟩
  unfold Browser.unlock
  dsimp only
  split
  · exact wp_throw ⟨Aside.refl w, .inr (.inl ⟨rfl, hstatus⟩)⟩
  · refine wp_got (wp_seq (wp_mono (wp_stored (stored_getLocalOnly _) w)
      (fun _ _ hs => hs) (fun _ hs => hstill hs) fun _ _ => trivial) ?_)
    intro isLocalOnly s hs
    refine wp_awaited ?_ (hstill hs) (hstill hs) trivial
    split
    · exact wp_modified (wp_throw
        ⟨hs.aside.trans ⟨rfl, rfl, rfl, rfl⟩, .inr (.inl ⟨hs.account, nofun⟩)⟩)
    · -- whatever fails from here on, the session is shown as locked
      have hbegins : Aside w (s.onSession setUnlocking) := hs.aside.trans ⟨rfl, rfl, rfl, rfl⟩
      have hbegun : ∀ {s'}, Still (s.onSession setUnlocking) s' →
          Aside w s' ∧ (s'.watch.halfway = true ∨ s'.account = w.account) := fun {s'} hs' =>
        ⟨hbegins.trans hs'.aside, .inr (hs'.account.trans hs.account)⟩
      refine wp_modified (wp_caught
        (F := fun s => Aside w s ∧ (s.watch.halfway = true ∨ s.account = w.account)) ?_ ?_)
      · refine wp_seq (wp_mono (wp_stored (stored_unlockKeystoreAccount _ _) _)
          (fun _ _ hs' => hs') (fun _ hs' => hbegun hs') fun _ _ => trivial) ?_
        intro a s₁ h₁
        have hnext : ∀ {s'}, Still s₁ s' →
            Aside w s' ∧ (s'.watch.halfway = true ∨ s'.account = w.account) := fun {s'} hs' =>
          ⟨(hbegun h₁).1.trans hs'.aside,
            .inr (hs'.account.trans (h₁.account.trans hs.account))⟩
        refine wp_seq (wp_mono (wp_stored (stored_checkRecovery _ _ _ _) _)
          (fun _ _ hs' => hs') (fun _ hs' => hnext hs') fun _ _ => trivial) ?_
        intro _ s₂ h₂
        refine wp_mono (admit_shows a _ _ _ s₂) ?_ ?_ fun _ _ => trivial
        · exact fun u s₃ h₃ => ⟨(hnext h₂).1.trans h₃.1, a, h₃.2.1, h₃.2.2⟩
        · exact fun s₃ h₃ => ⟨(hnext h₂).1.trans h₃.1, .inl h₃.2⟩
      · rintro s₁ ⟨haside, h₁⟩
        refine wp_modified (wp_throw ⟨haside.trans ⟨rfl, rfl, rfl, rfl⟩, ?_⟩)
        rcases h₁ with hhalfway | haccount
        · exact .inl hhalfway
        · exact .inr (.inl ⟨haccount, nofun⟩)

/-- What a call leaves that is rejected under the condition. -/
def Ended (w s : World) : Prop :=
  s.watch.halfway = true ∨ (w.account = none ∧ s.account = none ∧ s.session.status ≠ .unlocked) ∨
    ∃ a, Shows a s

/-- What a call of the account service comes to that unlocks an account, from the state `s`. -/
structure Enters (t : Task World Unlocked) (w : World) (fates : List Fate) (s : World) : Prop where
  ends : Ends (exec t)
    (fun u _ s => Aside w s ∧ ∃ a, Shows a s ∧ u = ⟨a.accountId, a.deviceId⟩)
    (fun _ s => Aside w s ∧ Ended w s) (fun _ _ => True) fates s

variable {s : World}

theorem Rejected.ended (h : Rejected w s) (hnone : w.account = none) : Ended w s := by
  rcases h with hhalfway | ⟨haccount, hstatus⟩ | hshows
  · exact .inl hhalfway
  · exact .inr (.inl ⟨hnone, haccount.trans hnone, hstatus⟩)
  · exact .inr (.inr hshows)

variable {fates : List Fate}

variable {uid : Option String}

theorem unlock_enters {q : String} (hstatus : w.session.status ≠ .unlocked)
    (h : w.account.isSome = true → Unrejected (Browser.unlock sdk uid q) fates w) :
    Enters (Browser.unlock sdk uid q) w fates w := by
  have hspec : Ends (Task.exec (Browser.unlock sdk uid q)) _ _ _ fates w :=
    ends_of_wp (unlock_shows uid q hstatus)
  constructor
  cases haccount : w.account with
  | none =>
    exact hspec.mono (fun _ _ _ hs => hs) (fun _ _ hs => ⟨hs.1, hs.2.ended haccount⟩) fun _ _ hs => hs
  | some a =>
    exact ends_and hspec (h (by rw [haccount]; rfl)).ends (fun _ _ _ hs _ => hs)
      (fun _ _ _ hf => hf.elim) fun _ _ hs _ => hs

/-- The account is unlocked in a slot that was just made. -/
theorem unlockSlot_enters (hs : Still w s) {slot password : String}
    (hstatus : w.session.status ≠ .unlocked) (h : w.account.isSome = true →
      Unrejected (Browser.unlock sdk (some slot) password) fates s) :
    Enters (do
      let result ← Task.called (Browser.unlock sdk (some slot) password)
      refreshAccountList
      pure result) w fates s := by
  have henters : Enters (Browser.unlock sdk (some slot) password) s fates s :=
    unlock_enters (hs.session ▸ hstatus) fun hsome => h (hs.account ▸ hsome)
  constructor
  rw [ends_called, exec_bind, ends_bind]
  refine henters.ends.mono ?_ ?_ fun _ _ _ => trivial
  · -- the list of accounts is read again
    rintro u f s' ⟨haside, a, hshows, hu⟩
    have hafter : Aside w s' := hs.aside.trans haside
    refine ends_of_wp (wp_seq (K := fun _ s => Aside w s ∧ Shows a s) ?_ ?_)
    · refine wp_listed (wp_modified (wp_pure ?_)) ?_ trivial
      · exact ⟨hafter.trans ⟨rfl, rfl, rfl, rfl⟩, hshows.status, hshows.account, hshows.accountId⟩
      · exact ⟨hafter, .inr (.inr ⟨a, hshows⟩)⟩
    · exact fun _ s'' hs'' => wp_pure ⟨hs''.1, a, hs''.2, hu⟩
  · rintro f s' ⟨haside, hended⟩
    refine ⟨hs.aside.trans haside, ?_⟩
    unfold Ended at hended ⊢
    rwa [hs.account] at hended

variable {password : String}

/-- A call that first makes a slot. -/
theorem newAccount_enters {slot : Task World String} (hslot : Within Stored slot)
    (hstatus : w.session.status ≠ .unlocked)
    (h : w.account.isSome = true → Unrejected
      (slot >>= fun storeKey => Browser.unlock sdk (some storeKey) password) fates w) :
    Enters (do
      let storeKey ← slot
      let result ← Task.called (Browser.unlock sdk (some storeKey) password)
      refreshAccountList
      pure result) w fates w := by
  have hspec : Ends _ _ _ _ fates w := ends_of_wp (wp_stored hslot w)
  constructor
  rw [exec_bind, ends_bind]
  cases haccount : w.account with
  | none =>
    refine hspec.mono ?_ ?_ fun _ _ _ => trivial
    · intro storeKey f s hs
      refine (unlockSlot_enters hs hstatus fun hsome => ?_).ends
      rw [haccount] at hsome
      exact nomatch hsome
    · rintro f s hs
      exact ⟨hs.aside, .inr (.inl ⟨haccount, hs.account.trans haccount, hs.session ▸ hstatus⟩)⟩
  | some a =>
    have hun := (h (by rw [haccount]; rfl)).ends
    rw [exec_bind, ends_bind] at hun
    refine ends_and hspec hun ?_ (fun _ _ _ hf => hf.elim) fun _ _ _ _ => trivial
    intro storeKey f s hs hun'
    have hrest : Unrejected (Browser.unlock sdk (some storeKey) password) f s := ⟨hun'⟩
    have henters := unlockSlot_enters hs hstatus fun _ => hrest
    exact henters.ends

/-- The page is told. -/
theorem completed_ends {t : Task World Unlocked} (h : Enters t w fates s) :
    Ends (exec (called t >>= completeUnlock))
      (fun _ _ s => Aside w s ∧ ∃ a, Shows a s) (fun _ s => Aside w s ∧ Ended w s)
      (fun _ _ => True) fates s := by
  rw [ends_called, exec_bind, ends_bind]
  refine h.ends.mono ?_ (fun _ _ hs => hs) fun _ _ _ => trivial
  rintro u f s' ⟨haside, a, hshows, rfl⟩
  refine ends_of_wp (wp_modified (wp_modified (wp_got (wp_pure ?_))))
  exact ⟨haside.trans ⟨rfl, rfl, rfl, rfl⟩, a, rfl, hshows.account, rfl⟩

theorem relock_aside (s : World) : Aside s (relock s) := by
  unfold relock
  split
  · exact ⟨rfl, rfl, rfl, rfl⟩
  · exact Aside.refl s

theorem Ended.relock (h : Ended w s) : Ended w (relock s) := by
  unfold Browser.relock
  split
  · rename_i hstatus
    rcases h with hhalfway | ⟨hnone, haccount, -⟩ | ⟨a, ha⟩
    · exact .inl hhalfway
    · exact .inr (.inl ⟨hnone, haccount, nofun⟩)
    · exact absurd (hstatus.symm.trans ha.status) nofun
  · exact h

theorem relocked_ends {α : Type} {t : Task World α} {R : α → Moment World}
    (h : Ends (exec t) R (fun _ s => Aside w s ∧ Ended w s) (fun _ _ => True) fates s) :
    Ends (exec (orRelock t)) R (fun _ s => Aside w s ∧ Ended w s) (fun _ _ => True) fates
      s := by
  rw [orRelock, exec_tryCatch, ends_tryCatch]
  refine h.mono (fun _ _ _ hs => hs) ?_ fun _ _ _ => trivial
  rintro f s' ⟨haside, hended⟩
  have hrelock : wp (exec (modify relock >>= fun _ => (failed : Task World α)))
      (fun _ _ => False) (fun s => Aside w s ∧ Ended w s) (fun _ => True) s' :=
    wp_modified (wp_throw ⟨haside.trans (relock_aside s'), hended.relock⟩)
  exact (ends_of_wp hrelock).mono (fun _ _ _ hf => hf.elim) (fun _ _ hs => hs) fun _ _ hs => hs

/-! ## The client of the runtime -/

/-- Every runtime that runs is that of the client that is held, unless one is left running; and the
client is for the account that it is known by. -/
structure Kept (w : World) : Prop where
  running : w.watch.leaked = true ∨ ∀ n ∈ w.running, w.holds n = true
  known : ∀ c i, w.sdkClient = some c → w.connectedIdentity = some i → c.account.identity = i

theorem Kept.aside (h : Kept w) (hs : Aside w s) : Kept s := by
  refine ⟨?_, ?_⟩
  · unfold holds
    rw [hs.leaked, hs.running, hs.sdkClient]
    exact h.running
  · rw [hs.sdkClient, hs.connectedIdentity]
    exact h.known

/-- No client is held, and none runs, unless one is left running; the rest is as it was. -/
structure Quiet (w s : World) : Prop where
  sdkClient : s.sdkClient = none
  connectedIdentity : s.connectedIdentity = none
  running : s.watch.leaked = true ∨ s.running = []
  account : s.account = w.account
  session : s.session = w.session

theorem Quiet.of_session {s w' : World} (h : Quiet w' s) (haccount : w'.account = w.account)
    (hsession : w'.session = w.session) : Quiet w s :=
  ⟨h.sdkClient, h.connectedIdentity, h.running, h.account.trans haccount, h.session.trans hsession⟩

theorem Quiet.kept (h : Quiet w s) : Kept s := by
  refine ⟨?_, ?_⟩
  · rcases h.running with hleaked | hnone
    · exact .inl hleaked
    · refine .inr ?_
      rw [hnone]
      exact nofun
  · intro c i hc _
    rw [h.sdkClient] at hc
    cases hc

/-- While the client `n` is closed, no other one runs. -/
structure Closing (w : World) (n : Nat) (s : World) : Prop where
  sdkClient : s.sdkClient = none
  connectedIdentity : s.connectedIdentity = none
  running : s.watch.leaked = true ∨ ∀ m ∈ s.running, m = n
  account : s.account = w.account
  session : s.session = w.session
  storage : s.storage = w.storage

theorem Closing.closed {n : Nat} (h : Closing w n s) : Quiet w (s.closed n) := by
  refine ⟨h.sdkClient, h.connectedIdentity, ?_, h.account, h.session⟩
  show (s.watch.leaked || decide (n ∈ s.running)) = true ∨ s.running = []
  rcases h.running with hleaked | hrunning
  · exact .inl (by rw [hleaked, Bool.true_or])
  · by_cases hn : n ∈ s.running
    · exact .inl (by rw [decide_eq_true hn, Bool.or_true])
    · refine .inr (eq_nil_iff_forall_not_mem.2 fun m hm => ?_)
      exact hn (hrunning m hm ▸ hm)

theorem closeRuntime_closing (n : Nat) (h : Closing w n s) :
    wp (exec (closeRuntime n)) (fun _ s => Closing w n s) (fun s => Closing w n s)
      (fun _ => True) s := by
  have hstop : Closing w n (s.stop n) := by
    refine ⟨h.sdkClient, h.connectedIdentity, ?_, h.account, h.session, h.storage⟩
    rcases h.running with hleaked | hrunning
    · exact .inl hleaked
    · exact .inr fun m hm => hrunning m (mem_of_mem_filter hm)
  unfold closeRuntime
  rw [exec_called]
  refine wp_got ?_
  split
  · refine wp_awaited ?_ h hstop trivial
    exact wp_modify ⟨hstop.sdkClient, hstop.connectedIdentity, hstop.running, hstop.account,
      hstop.session, hstop.storage⟩
  · exact wp_pure h

theorem closeClient_quiet (h : Kept w) : wp (exec closeClient)
    (fun _ s => Quiet w s ∧ s.storage = w.storage) (fun _ => False) (fun _ => True) w := by
  unfold closeClient
  rw [exec_called]
  refine wp_got (wp_modified ?_)
  cases hclient : w.sdkClient with
  | none =>
    refine wp_pure ⟨⟨rfl, rfl, ?_, rfl, rfl⟩, rfl⟩
    rcases h.running with hleaked | hrunning
    · exact .inl hleaked
    · refine .inr (eq_nil_iff_forall_not_mem.2 fun n hn => ?_)
      have hheld := hrunning n hn
      rw [holds, hclient] at hheld
      exact false_ne_true hheld
  | some c =>
    have hclosing : Closing w c.number w.letGo := by
      refine ⟨rfl, rfl, ?_, rfl, rfl, rfl⟩
      rcases h.running with hleaked | hrunning
      · exact .inl hleaked
      · refine .inr fun n hn => ?_
        have hheld := hrunning n hn
        rw [holds, hclient, any_some] at hheld
        exact (of_decide_eq_true hheld).symm
    refine wp_seq (K := fun _ s => Closing w c.number s) ?_ fun _ s hs =>
      wp_modify ⟨hs.closed, hs.storage⟩
    exact wp_caught (closeRuntime_closing c.number hclosing) fun s hs => wp_pure hs

theorem disconnect_quiet (h : Kept w) : wp (exec disconnectRuntimeForAuthOperation)
    (fun _ s => Quiet w s ∧ s.storage = w.storage) (fun _ => False) (fun _ => True) w := by
  unfold disconnectRuntimeForAuthOperation disconnect
  rw [exec_called, exec_called, exec_called]
  exact closeClient_quiet h

/-- **Connecting** a runtime for the account that is shown. -/
theorem connectClientFor_shows (hshows : Shows a s) (hkept : Kept s) :
    wp (exec (connectClientFor a)) (fun i s => (Shows a s ∧ Kept s) ∧ i = a.identity)
      (fun s => Shows a s ∧ Kept s) (fun _ => True) s := by
  unfold connectClientFor
  rw [exec_called]
  refine wp_got ?_
  split
  · rename_i c hc
    obtain ⟨hclient, hidentity⟩ := filter_eq_some_iff.1 hc
    have hsame : c.account.identity = a.identity := hkept.known c _ hclient (of_decide_eq_true hidentity)
    refine wp_modified (wp_pure ⟨⟨⟨hshows.status, hshows.account, hshows.accountId⟩,
      hkept.running, ?_⟩, hsame⟩)
    rintro c' i hc' hi
    obtain rfl := some_inj.1 (hclient.symm.trans hc')
    exact some_inj.1 hi
  · refine wp_seq (wp_mono (closeClient_quiet hkept) (fun _ _ hs => hs.1)
      (fun _ hf => hf.elim) fun _ hs => hs) ?_
    intro _ s₁ h₁
    have hstill : Shows a s₁ := ⟨h₁.session ▸ hshows.status, h₁.account ▸ hshows.account,
      h₁.session ▸ hshows.accountId⟩
    -- the new client is the one that is held, so it may run
    have hheld : ∀ s', s'.sdkClient = some ⟨s₁.nextClient, a⟩ → s'.connectedIdentity = none →
        (s'.watch.leaked = true ∨ s'.running ⊆ [s₁.nextClient]) → Kept s' := by
      intro s' hclient hidentity hrunning
      refine ⟨?_, ?_⟩
      · rcases hrunning with hleaked | hsub
        · exact .inl hleaked
        · refine .inr fun n hn => ?_
          rw [holds, hclient, any_some, mem_singleton.1 (hsub hn)]
          exact decide_eq_true rfl
      · intro c i _ hi
        rw [hidentity] at hi
        cases hi
    have hnone : s₁.watch.leaked = true ∨ s₁.running ⊆ [s₁.nextClient] := by
      rcases h₁.running with hleaked | hnil
      · exact .inl hleaked
      · rw [hnil]
        exact .inr (nil_subset _)
    have hone : s₁.watch.leaked = true ∨ s₁.nextClient :: s₁.running ⊆ [s₁.nextClient] := by
      rcases hnone with hleaked | hsub
      · exact .inl hleaked
      · exact .inr (cons_subset.2 ⟨mem_singleton.2 rfl, hsub⟩)
    refine wp_got (wp_modified (wp_seq
      (K := fun _ s' => Shows a s' ∧ s'.sdkClient = some ⟨s₁.nextClient, a⟩ ∧
        (s'.watch.leaked = true ∨ s'.running ⊆ [s₁.nextClient])) ?_ ?_))
    · unfold connectRuntime
      rw [exec_called]
      have hbefore : ∀ s', s'.session = s₁.session → s'.account = s₁.account → Shows a s' :=
        fun s' hsession haccount => ⟨hsession ▸ hstill.status, haccount ▸ hstill.account,
          hsession ▸ hstill.accountId⟩
      refine wp_awaited (wp_modified ?_) ?_ ?_ trivial
      · rw [exec_await]
        refine wp_await ?_ ?_ ?_ trivial
        · exact ⟨hbefore _ rfl rfl, rfl, hone⟩
        · exact ⟨hbefore _ rfl rfl, hheld _ rfl h₁.connectedIdentity hnone⟩
        · exact ⟨hbefore _ rfl rfl, hheld _ rfl h₁.connectedIdentity hone⟩
      · exact ⟨hbefore _ rfl rfl, hheld _ rfl h₁.connectedIdentity hnone⟩
      · exact ⟨hbefore _ rfl rfl, hheld _ rfl h₁.connectedIdentity hnone⟩
    · rintro - s₂ ⟨hshows₂, hclient, hrunning⟩
      refine wp_modified (wp_pure ⟨⟨⟨hshows₂.status, hshows₂.account, hshows₂.accountId⟩,
        ?_, ?_⟩, rfl⟩)
      · rcases hrunning with hleaked | hsub
        · exact .inl hleaked
        · refine .inr fun n hn => ?_
          show s₂.holds n = true
          rw [holds, hclient, any_some, mem_singleton.1 (hsub hn)]
          exact decide_eq_true rfl
      · rintro c i hc hi
        obtain rfl := some_inj.1 (hclient.symm.trans hc)
        exact some_inj.1 hi

theorem connectAfter_shows (hshows : Shows a s) (hkept : Kept s)
    (started : Option Nat) : wp (exec (connectAfter started))
      (fun _ s => Shows a s ∧ Kept s) (fun _ => False) (fun _ => True) s := by
  have hclient : wp (exec connectClient) (fun i s => (Shows a s ∧ Kept s) ∧ i = a.identity)
      (fun s => Shows a s ∧ Kept s) (fun _ => True) s := by
    unfold connectClient
    rw [exec_called]
    refine wp_got ?_
    rw [hshows.account]
    refine wp_seq (connectClientFor_shows hshows hkept) ?_
    rintro i s' ⟨⟨hs, hk⟩, hi⟩
    exact wp_modified (wp_pure ⟨⟨⟨hs.status, hs.account, hs.accountId⟩,
      hk.running, hk.known⟩, hi⟩)
  have hconnect : wp (exec connect) (fun i s => (Shows a s ∧ Kept s) ∧ i = a.identity)
      (fun s => Shows a s ∧ Kept s) (fun _ => True) s := by
    unfold connect
    rw [exec_called]
    refine wp_seq hclient ?_
    rintro i s' ⟨hs, hi⟩
    refine wp_got ?_
    split
    · exact wp_throw hs
    · exact wp_pure ⟨hs, hi⟩
  cases started with
  | none => exact wp_pure ⟨hshows, hkept⟩
  | some connectSeq =>
    refine wp_caught (F := fun s => Shows a s ∧ Kept s) ?_ fun s hs => wp_pure hs
    refine wp_seq ?_ fun i s' (hs : (Shows a s' ∧ Kept s') ∧ i = a.identity) => ?_
    · rw [exec_called]
      exact hconnect
    · obtain ⟨⟨hs, hk⟩, rfl⟩ := hs
      refine wp_modify ?_
      split
      · refine ⟨⟨rfl, hs.account, ?_⟩, hk.running, hk.known⟩
        show some (trim a.accountId) = some a.accountId
        rw [a.accountId_isId.1]
      · exact ⟨hs, hk⟩

/-! ## What a call leaves -/

/-- The three agree, unless the call failed halfway, or a runtime was left running. -/
def Good (s : World) : Prop :=
  s.watch.halfway = true ∨ s.watch.leaked = true ∨ (Agrees s ∧ Kept s)

theorem good_of_shows (hshows : Shows a s) (hkept : Kept s) : Good s := by
  refine .inr (.inr ⟨⟨?_, ?_, ?_⟩, hkept⟩)
  · rw [hshows.status, hshows.account]
    exact ⟨fun _ => rfl, fun _ => rfl⟩
  · rintro b hb
    obtain rfl := some_inj.1 (hshows.account.symm.trans hb)
    exact hshows.accountId
  · exact fun hne => absurd hshows.status hne

/-- Nothing is unlocked, and no client is held. -/
theorem good_of_none (haccount : s.account = none) (hstatus : s.session.status ≠ .unlocked)
    (hclient : s.sdkClient = none) (hkept : Kept s) : Good s := by
  rcases hkept.running with hleaked | hrunning
  · exact .inr (.inl hleaked)
  · refine .inr (.inr ⟨⟨?_, ?_, fun _ => ⟨hclient, ?_⟩⟩, hkept⟩)
    · rw [haccount]
      exact ⟨fun h => absurd h hstatus, fun h => absurd h false_ne_true⟩
    · intro a ha
      rw [haccount] at ha
      cases ha
    · refine eq_nil_iff_forall_not_mem.2 fun n hn => ?_
      have hheld := hrunning n hn
      rw [holds, hclient] at hheld
      exact false_ne_true hheld

theorem good_of_ended (hkept : Kept w) (hoff : w.account = none → w.sdkClient = none)
    (haside : Aside w s) (hended : Ended w s) : Good s := by
  rcases hended with hhalfway | ⟨hnone, haccount, hstatus⟩ | ⟨a, ha⟩
  · exact .inl hhalfway
  · exact good_of_none haccount hstatus (haside.sdkClient.trans (hoff hnone)) (hkept.aside haside)
  · exact good_of_shows ha (hkept.aside haside)

/-- What is true of a call: it has unlocked an account, or there is nothing left to do. -/
def Started (r : Option Nat) (s : World) : Prop :=
  (r = none ∧ Good s) ∨ (Kept s ∧ ∃ a, Shows a s)

/-- What the call comes to, from the state `s`. -/
structure Leaves (t : Task World (Option Nat)) (fates : List Fate) (s : World) : Prop where
  ends : Ends (exec t) (fun r _ s => Started r s) (fun _ s => Good s) (fun _ _ => True) fates s

theorem leaves_of_wp {t : Task World (Option Nat)} (h : wp (exec t)
    (fun r s => r = none ∧ Good s) Good (fun _ => True) s) : Leaves t fates s :=
  ⟨(ends_of_wp h).mono (fun _ _ _ hs => .inl hs) (fun _ _ hs => hs) fun _ _ hs => hs⟩

theorem leaves_modified {f : World → World} {k : Unit → Task World (Option Nat)}
    (h : Leaves (k ()) fates (f w)) : Leaves (modify f >>= k) fates w := by
  constructor
  rw [ends_modified]
  exact h.ends

/-- What is asked of the state in which a call of the account service is made. -/
structure Ready (w : World) : Prop where
  kept : Kept w
  status : w.session.status ≠ .unlocked
  offline : w.account = none → w.sdkClient = none

theorem Ready.leaves (h : Ready w) {t : Task World Unlocked} (ht : Enters t w fates w) :
    Leaves (called t >>= completeUnlock) fates w := by
  refine ⟨(completed_ends ht).mono ?_ ?_ fun _ _ _ => trivial⟩
  · rintro r f s ⟨haside, hshows⟩
    exact .inr ⟨h.kept.aside haside, hshows⟩
  · rintro f s ⟨haside, hended⟩
    exact good_of_ended h.kept h.offline haside hended

theorem Ready.leaves_relocked (h : Ready w) {t : Task World Unlocked} (ht : Enters t w fates w) :
    Leaves (orRelock (called t >>= completeUnlock)) fates w := by
  refine ⟨(relocked_ends (completed_ends ht)).mono ?_ ?_ fun _ _ _ => trivial⟩
  · rintro r f s ⟨haside, hshows⟩
    exact .inr ⟨h.kept.aside haside, hshows⟩
  · rintro f s ⟨haside, hended⟩
    exact good_of_ended h.kept h.offline haside hended

/-! What is not rejected is not rejected in its first part. -/

theorem Unrejected.first {α β : Type} {t : Task World α} {k : α → Task World β}
    (h : Unrejected (t >>= k) fates w) : Unrejected t fates w := by
  have hends := h.ends
  rw [exec_bind, ends_bind] at hends
  exact ⟨hends.mono (fun _ _ _ _ => trivial) (fun _ _ hf => hf) fun _ _ hs => hs⟩

theorem Unrejected.modified {α : Type} {f : World → World} {k : Unit → Task World α}
    (h : Unrejected (modify f >>= k) fates w) : Unrejected (k ()) fates (f w) := by
  have hends := h.ends
  rw [ends_modified] at hends
  exact ⟨hends⟩

theorem Unrejected.slot {slot : Task World String} {t : String → Task World Unlocked}
    (h : Unrejected (slot >>= fun storeKey => t storeKey >>= fun _ => (pure () : Task World Unit))
      fates w) : Unrejected (slot >>= t) fates w := by
  have hends := h.ends
  rw [exec_bind, ends_bind] at hends
  constructor
  rw [exec_bind, ends_bind]
  refine hends.mono ?_ (fun _ _ hf => hf) fun _ _ hs => hs
  intro storeKey f s hs
  have hrest : Unrejected (t storeKey >>= fun _ => (pure () : Task World Unit)) f s := by
    constructor
    assumption
  exact hrest.first.ends

/-! ## The calls -/

/-- What holds in a run under the condition. -/
structure Well (w : World) : Prop where
  agrees : Agrees w
  kept : Kept w
  whole : w.watch.halfway = false
  stopped : w.watch.leaked = false

section

variable (h : Well w)
include h

theorem Well.auth : Well w.authStarted :=
  ⟨⟨h.agrees.unlocked, h.agrees.account, h.agrees.offline⟩, ⟨h.kept.running, h.kept.known⟩, h.whole,
    h.stopped⟩

theorem Well.good : Good w := .inr (.inr ⟨h.agrees, h.kept⟩)

theorem Well.offline (hnone : w.account = none) : w.sdkClient = none := by
  refine (h.agrees.offline fun hstatus => ?_).1
  have hsome := h.agrees.unlocked.1 hstatus
  rw [hnone] at hsome
  exact false_ne_true hsome

/-- The session is shown as being unlocked. -/
theorem Well.ready : Ready (w.authStarted.onSession setUnlocking) :=
  ⟨⟨h.kept.running, h.kept.known⟩, nofun, h.offline⟩

theorem unlock_leaves
    (hun : w.account.isSome = true →
      Unrejected ((AuthOp.unlock uid password).opening sdk) fates w) :
    Leaves (unlock sdk uid password) fates w := by
  refine leaves_modified (leaves_modified (h.ready.leaves_relocked (unlock_enters h.ready.status ?_)))
  exact fun hsome => (hun hsome).modified.modified.first

theorem createAccount_leaves {call : CreateCall} {confirmPassword : String}
    (hun : w.account.isSome = true →
      Unrejected ((AuthOp.createAccount call confirmPassword).opening sdk) fates w) :
    Leaves (createAccount sdk call confirmPassword) fates w := by
  refine leaves_modified ?_
  unfold AuthOp.opening at hun
  split
  · exact leaves_of_wp (wp_pure ⟨rfl, h.auth.good⟩)
  · rename_i hconfirm
    refine leaves_modified (h.ready.leaves (newAccount_enters (stored_createSlot sdk call)
      h.ready.status fun hsome => ?_))
    have hopening := (hun hsome).modified
    rw [if_neg hconfirm] at hopening
    exact hopening.modified.slot

theorem linkDevice_leaves {call : LinkCall} {confirmPassword : String}
    (hun : w.account.isSome = true →
      Unrejected ((AuthOp.linkDevice call confirmPassword).opening sdk) fates w) :
    Leaves (linkDevice sdk call confirmPassword) fates w := by
  refine leaves_modified ?_
  unfold AuthOp.opening at hun
  split
  · exact leaves_of_wp (wp_pure ⟨rfl, h.auth.good⟩)
  · rename_i hconfirm
    refine leaves_modified (h.ready.leaves (newAccount_enters (stored_linkSlot call)
      h.ready.status fun hsome => ?_))
    have hopening := (hun hsome).modified
    rw [if_neg hconfirm] at hopening
    exact hopening.modified.slot

end

theorem Quiet.ready (h : Quiet w s) :
    Ready (s.onSession setUnlocking) :=
  ⟨⟨h.kept.running, h.kept.known⟩, nofun, fun _ => h.sdkClient⟩

theorem restoreWithMnemonic_leaves (h : Well w) {call : RestoreCall}
    (hun : w.account.isSome = true →
      Unrejected ((AuthOp.restoreWithMnemonic call).opening sdk) fates w) :
    Leaves (restoreWithMnemonic sdk call) fates w := by
  refine leaves_modified (leaves_modified ⟨?_⟩)
  have hkept : Kept w.authStarted.nextConnect := ⟨h.kept.running, h.kept.known⟩
  have hquiet : Ends (Task.exec disconnectRuntimeForAuthOperation)
      (fun _ _ s => Quiet w s) (fun _ _ => False) (fun _ _ => True) fates w.authStarted.nextConnect :=
    (ends_of_wp (disconnect_quiet hkept)).mono (fun _ _ s hs => hs.1.of_session rfl rfl)
      (fun _ _ hf => hf) fun _ _ hs => hs
  have hafter : ∀ f s, Quiet w s → (w.account.isSome = true →
      Unrejected (restoreSlot sdk call >>= fun storeKey =>
        Browser.unlock sdk (some storeKey) call.newPassword) f
        (s.onSession setUnlocking)) →
      Leaves (do
        Task.modify (onSession setUnlocking)
        orRelock do
          let unlocked ← Task.called (Browser.restoreWithMnemonic sdk call)
          completeUnlock unlocked) f s := fun f s hs hrest =>
    leaves_modified (hs.ready.leaves_relocked (newAccount_enters (stored_restoreSlot sdk call)
      hs.ready.status fun hsome => hrest (hs.account ▸ hsome)))
  rw [exec_bind, ends_bind]
  cases haccount : w.account with
  | none =>
    refine hquiet.mono ?_ (fun _ _ hf => hf.elim) fun _ _ _ => trivial
    intro _ f s hs
    refine (hafter f s hs fun hsome => ?_).ends
    rw [haccount] at hsome
    exact nomatch hsome
  | some a =>
    have hopening := (hun (by rw [haccount]; rfl)).modified.modified.ends
    rw [exec_bind, ends_bind] at hopening
    refine ends_and hquiet hopening ?_ (fun _ _ hf _ => hf.elim) fun _ _ _ _ => trivial
    intro _ f s hs hrest
    have hun' : Unrejected (do
        Task.modify (onSession setUnlocking)
        let storeKey ← restoreSlot sdk call
        let _ ← Browser.unlock sdk (some storeKey) call.newPassword
        pure ()) f s := ⟨hrest⟩
    exact (hafter f s hs fun _ => hun'.modified.slot).ends

/-- Where nothing is unlocked, and no client is held, the three agree, whatever else the page
shows. -/
theorem Quiet.good (h : Well w) (hs : Quiet w s) : Good s := by
  rcases hs.running with hleaked | hrunning
  · exact .inr (.inl hleaked)
  · refine .inr (.inr ⟨⟨?_, ?_, fun _ => ⟨hs.sdkClient, hrunning⟩⟩, hs.kept⟩)
    · rw [hs.session, hs.account]
      exact h.agrees.unlocked
    · rw [hs.session, hs.account]
      exact h.agrees.account

theorem Quiet.still {s s' : World} (h : Quiet w s) (hs : Still s s') : Quiet w s' := by
  refine ⟨hs.aside.sdkClient.trans h.sdkClient, hs.aside.connectedIdentity.trans h.connectedIdentity,
    ?_, hs.account.trans h.account, hs.session.trans h.session⟩
  rw [hs.aside.leaked, hs.aside.running]
  exact h.running

/-- Nothing is unlocked or held. -/
structure Off (s : World) : Prop where
  account : s.account = none
  status : s.session.status ≠ .unlocked
  sdkClient : s.sdkClient = none
  kept : Kept s

theorem Off.good (h : Off s) : Good s := good_of_none h.account h.status h.sdkClient h.kept

theorem Quiet.off (hs : Quiet w s) {s' : World} (haccount : s'.account = none)
    (hstatus : s'.session.status ≠ .unlocked) (haside : Aside s s') : Off s' :=
  ⟨haccount, hstatus, haside.sdkClient.trans hs.sdkClient, hs.kept.aside haside⟩

theorem logout_off (h : Well w) (hs : Quiet w s) :
    wp (exec logout) (fun _ s => Off s) (fun s => Off s) (fun _ => True) s := by
  unfold logout
  refine wp_got ?_
  split
  · rename_i hstatus
    refine wp_modify (hs.off ?_ nofun ⟨rfl, rfl, rfl, rfl⟩)
    -- the account is let be, but there is none
    show s.account = none
    rw [hs.account]
    rw [hs.session] at hstatus
    cases haccount : w.account with
    | none => rfl
    | some a =>
      have hunlocked := h.agrees.unlocked.2 (by rw [haccount]; rfl)
      exact absurd (hstatus.symm.trans hunlocked) nofun
  · refine wp_modified ?_
    have hoff : ∀ s', Aside s s' → s'.account = none → s'.session.status = .locking → Off s' :=
      fun s' haside haccount hstatus => hs.off haccount (by rw [hstatus]; exact nofun) haside
    refine wp_awaited ?_ ?_ ?_ trivial
    · refine wp_listed (wp_modified ?_) ?_ trivial
      · dsimp only
        split
        · exact wp_modify (hs.off rfl nofun ⟨rfl, rfl, rfl, rfl⟩)
        · exact wp_modify (hs.off rfl nofun ⟨rfl, rfl, rfl, rfl⟩)
      · exact hoff _ ⟨rfl, rfl, rfl, rfl⟩ rfl rfl
    · exact hoff _ ⟨rfl, rfl, rfl, rfl⟩ rfl rfl
    · exact hoff _ ⟨rfl, rfl, rfl, rfl⟩ rfl rfl

theorem changePassword_good (h : Well w) (hs : Quiet w s) (accountId : Option String)
    (old new : String) : wp (Task.exec (Browser.changePassword accountId old new))
      (fun _ s => Good s) Good (fun _ => True) s := by
  unfold Browser.changePassword
  refine wp_seq (wp_mono (reseal_spec accountId old new s) (fun _ _ hr => hr.1)
    (fun _ hr => by rw [hr]; exact hs.good h) fun _ _ => trivial) ?_
  rintro r _ rfl
  refine wp_seq (wp_mono (wp_stored (stored_rewrite r) _) (fun _ _ hstill => hs.still hstill)
    (fun _ hstill => (hs.still hstill).good h) fun _ _ => trivial) ?_
  intro _ s₁ h₁
  refine wp_got (wp_seq (K := fun _ s => Off s) ?_ fun _ _ hoff => wp_pure hoff.good)
  rw [exec_called]
  exact wp_mono (logout_off h h₁) (fun _ _ hoff => hoff) (fun _ hoff => hoff.good)
    fun _ hd => hd

theorem purgeAccount_good (h : Well w) (hs : Quiet w s) (accountId : Option String)
    (password : String) : wp (Task.exec (Browser.purgeAccount accountId password))
      (fun _ s => Good s) Good (fun _ => True) s := by
  have hstep : ∀ {α : Type} {t : Task World α} {s : World}, Task.Within Stored t → Quiet w s →
      wp (Task.exec t) (fun _ s => Quiet w s) Good (fun _ => True) s := fun ht hs =>
    wp_mono (wp_stored ht _) (fun _ _ hstill => hs.still hstill)
      (fun _ hstill => (hs.still hstill).good h) fun _ _ => trivial
  unfold Browser.purgeAccount
  split
  · exact wp_throw (hs.good h)
  · refine wp_got ?_
    dsimp only
    generalize resolveStoreKey accountId s.session = slot
    refine wp_seq (hstep (stored_unlockKeystoreAccount _ _) hs) fun a s₁ h₁ => ?_
    refine wp_seq (hstep (within_await fun w => ⟨w.storage, _, rfl⟩) h₁) fun _ s₂ h₂ => ?_
    refine wp_seq (hstep (stored_clearKeystore _) h₂) fun _ s₃ h₃ => ?_
    refine wp_seq (hstep (stored_clearKeystore _) h₃) fun _ s₄ h₄ => ?_
    refine wp_seq (hstep (stored_deleteAccountMetadata slot) h₄) fun _ s₅ h₅ => ?_
    refine wp_seq (hstep (stored_removeAccount slot) h₅) fun _ s₆ h₆ => ?_
    refine wp_modified (wp_seq (K := fun _ s => s.account = none ∧ Aside s₆ s) ?_ ?_)
    · refine wp_halfway ?_
      unfold listAccounts
      rw [exec_called]
      show wp (exec (await _)) _ _ _ _
      rw [exec_await]
      have hfailed : Good (failing { s₆ with account := none, pendingServerSyncEnvelope := none }) := by
        by_cases hstatus : s₆.session.status = .unlocked
        · refine .inl ?_
          show (s₆.watch.halfway || decide (s₆.session.status = .unlocked)) = true
          rw [decide_eq_true hstatus, Bool.or_true]
        · have hoff : Off (failing { s₆ with account := none, pendingServerSyncEnvelope := none }) :=
            h₆.off rfl hstatus ⟨rfl, rfl, rfl, rfl⟩
          exact hoff.good
      exact wp_await ⟨rfl, rfl, rfl, rfl, rfl⟩ hfailed hfailed trivial
    · rintro accounts s₇ ⟨haccount, haside⟩
      refine wp_modified ?_
      have hoff : ∀ s', s'.account = s₇.account → s'.session.status ≠ .unlocked → Aside s₇ s' → Good s' :=
        fun s' hsame hstatus haside' =>
          (h₆.off (hsame.trans haccount) hstatus (haside.trans haside')).good
      cases accounts with
      | nil => exact wp_modified (wp_pure (hoff _ rfl nofun ⟨rfl, rfl, rfl, rfl⟩))
      | cons e accounts => exact wp_modified (wp_pure (hoff _ rfl nofun ⟨rfl, rfl, rfl, rfl⟩))

/-- The runtime is disconnected first. -/
theorem disconnected_good {k : Unit → Task World (Option Nat)}
    (hk : ∀ s, Quiet w s → wp (exec (k ())) (fun r s => r = none ∧ Good s) Good
      (fun _ => True) s) {w' : World} (hkept : Kept w') (haccount : w'.account = w.account)
    (hsession : w'.session = w.session) :
    wp (exec (disconnectRuntimeForAuthOperation >>= k)) (fun r s => r = none ∧ Good s) Good
      (fun _ => True) w' :=
  wp_seq (wp_mono (disconnect_quiet hkept) (fun _ _ hs => hs.1.of_session haccount hsession)
    (fun _ hf => hf.elim) fun _ hd => hd) fun _ s hs => hk s hs

section

variable (h : Well w)
include h

theorem changePassword_leaves (old new : String) :
    Leaves (changePassword old new) fates w := by
  refine leaves_of_wp (wp_got ?_)
  dsimp only
  split
  · exact wp_throw h.good
  · refine wp_modified (disconnected_good (w := w) ?_ ⟨h.kept.running, h.kept.known⟩ rfl rfl)
    intro s hs
    refine wp_seq (K := fun _ s => Good s) ?_ fun _ _ hgood => wp_pure ⟨rfl, hgood⟩
    rw [exec_called]
    exact changePassword_good h hs _ _ _

theorem purgeAccount_leaves (accountId : Option String) (password : String) :
    Leaves (purgeAccount accountId password) fates w := by
  refine leaves_of_wp (wp_got ?_)
  dsimp only
  split
  · exact wp_throw h.good
  · refine wp_modified (disconnected_good (w := w) ?_ ⟨h.kept.running, h.kept.known⟩ rfl rfl)
    intro s hs
    refine wp_seq (K := fun _ s => Good s) ?_ fun _ _ hgood => wp_pure ⟨rfl, hgood⟩
    rw [exec_called]
    exact purgeAccount_good h hs _ _

theorem lock_leaves (i : Nat) : Leaves (lock i) fates w := by
  have hoff : ∀ {s s' : World}, Off s → s'.account = s.account → s'.session = s.session →
      Aside s s' → Off s' := fun hs haccount hsession haside =>
    ⟨haccount.trans hs.account, hsession ▸ hs.status, haside.sdkClient.trans hs.sdkClient,
      hs.kept.aside haside⟩
  refine leaves_of_wp (wp_modified (wp_modified (wp_caught (F := fun s => Good s) ?_ ?_)))
  · refine disconnected_good (w := w) ?_ ⟨h.kept.running, h.kept.known⟩ rfl rfl
    intro s hs
    have hcleared : Quiet w (s.lockClears i) := hs.still ⟨⟨rfl, rfl, rfl, rfl⟩, rfl, rfl, rfl⟩
    refine wp_modified (wp_seq (K := fun _ s => Off s) ?_ ?_)
    · rw [exec_called]
      exact wp_mono (logout_off h hcleared) (fun _ _ hs => hs) (fun _ hs => hs.good) fun _ hd => hd
    · intro _ s' hs'
      refine wp_modified (wp_pure ⟨rfl, Off.good ?_⟩)
      unfold lockDone
      split
      · exact hoff hs' rfl rfl ⟨rfl, rfl, rfl, rfl⟩
      · exact hs'
  · intro s hs
    refine wp_modified (wp_throw ?_)
    rcases hs with hhalfway | hleaked | ⟨hagrees, hkept⟩
    · exact .inl hhalfway
    · exact .inr (.inl hleaked)
    · exact .inr (.inr ⟨⟨hagrees.unlocked, hagrees.account, hagrees.offline⟩,
        hkept.running, hkept.known⟩)

/-- **A call, and the connect it starts.** -/
theorem task_good (op : AuthOp)
    (hun : w.account.isSome = true → Unrejected (op.opening sdk) fates w) :
    Ends (Task.exec (op.task sdk)) (fun _ _ s => Good s) (fun _ s => Good s) (fun _ _ => True)
      fates w := by
  have hleaves : Leaves (op.call sdk) fates w := by
    cases op with
    | unlock accountId password => exact unlock_leaves h hun
    | createAccount call confirmPassword => exact createAccount_leaves h hun
    | linkDevice call confirmPassword => exact linkDevice_leaves h hun
    | restoreWithMnemonic call => exact restoreWithMnemonic_leaves h hun
    | changePassword old new => exact changePassword_leaves h old new
    | purgeAccount accountId password => exact purgeAccount_leaves h accountId password
    | lock => exact lock_leaves h 0
  rw [AuthOp.task, exec_bind, ends_bind]
  refine hleaves.ends.mono ?_ (fun _ _ hs => hs) fun _ _ _ => trivial
  rintro started f s (⟨rfl, hgood⟩ | ⟨hkept, a, hshows⟩)
  · exact ends_of_wp (wp_pure hgood)
  · exact ends_of_wp (wp_mono (connectAfter_shows hshows hkept started)
      (fun _ _ hs => good_of_shows hs.1 hs.2) (fun _ hf => hf.elim) fun _ hd => hd)

end

/-! ## A call that is refused -/

/-- What is refused leaves the account and the runtime alone. -/
structure Spurned (w s : World) : Prop where
  account : s.account = w.account
  sdkClient : s.sdkClient = w.sdkClient
  running : s.running = w.running

theorem Spurned.refl (w : World) : Spurned w w := ⟨rfl, rfl, rfl⟩

theorem Spurned.trans {s s' : World} (h : Spurned w s) (h' : Spurned s s') : Spurned w s' :=
  ⟨h'.account.trans h.account, h'.sdkClient.trans h.sdkClient, h'.running.trans h.running⟩

theorem Spurned.untouched (h : Spurned w s)
    (hstatus : s.session.status = w.session.status) : Untouched w s :=
  ⟨hstatus, h.account, h.sdkClient, h.running⟩

theorem wrongPassword_ne {slot q : String} (h : WrongPassword w slot q) (b : Account) :
    (w.envelope (keystoreKey slot)).bind (Value.openAccount q) ≠ some b := by
  obtain ⟨v, hv, hopen⟩ := h
  rw [hv, bind_some, hopen]
  exact nofun

/-- A string that does not open the slot. The page shows what it showed, or that it is locked. -/
theorem unlock_refused {q : String} (h : trim q = "" ∨
      WrongPassword w (unlockSlot uid w.session) (trim q)) :
    wp (Task.exec (Browser.unlock sdk uid q)) (fun _ _ => False)
      (fun s => Spurned w s ∧ (s.session = w.session ∨ s.session.status = .locked))
      (fun _ => True) w := by
  have hsame : Spurned w w ∧ (w.session = w.session ∨ w.session.status = .locked) :=
    ⟨Spurned.refl w, .inl rfl⟩
  unfold Browser.unlock
  dsimp only
  split
  · exact wp_throw hsame
  · rename_i hblank
    have hwrong := h.resolve_left hblank
    refine wp_got (wp_seq (wp_mono (getLocalOnly_spec _ w) (fun _ _ hs => hs)
      (fun _ hs => hs ▸ hsame) fun _ _ => trivial) ?_)
    rintro isLocalOnly s rfl
    refine wp_awaited ?_ hsame hsame trivial
    obtain ⟨v, hv, -⟩ := id hwrong
    dsimp only
    rw [hv]
    refine wp_modified (wp_caught (F := fun s' => Spurned s s') ?_ ?_)
    · have hshown : Spurned s (s.onSession setUnlocking) := ⟨rfl, rfl, rfl⟩
      refine wp_seq (wp_mono (unlockKeystoreAccount_spec _ _ _) (fun _ _ hs => hs)
        (fun _ hs => hs ▸ hshown) fun _ _ => trivial) ?_
      exact fun b s' hs => (wrongPassword_ne hwrong b hs.2).elim
    · intro s' hs'
      exact wp_modified (wp_throw ⟨hs'.trans ⟨rfl, rfl, rfl⟩, .inr rfl⟩)

/-- Where the session is locked, it is so again. -/
theorem relock_refused {t : Task World (Option Nat)} {w' : World} (hw' : Spurned w w')
    (hstatus : w'.session.status = .unlocking) (hlocked : w.session.status = .locked)
    (ht : wp (exec t) (fun _ _ => False)
      (fun s => Spurned w' s ∧ (s.session = w'.session ∨ s.session.status = .locked))
      (fun _ => True) w') :
    wp (exec (orRelock t)) (fun _ _ => False) (fun s => Untouched w s) (fun _ => True)
      w' := by
  refine wp_caught ht ?_
  rintro s ⟨hs, hshown⟩
  refine wp_modified (wp_throw ?_)
  have hspurned : Spurned w (relock s) := by
    refine (hw'.trans hs).trans ?_
    unfold relock
    split
    · exact ⟨rfl, rfl, rfl⟩
    · exact Spurned.refl s
  refine hspurned.untouched ?_
  unfold relock
  rw [hlocked]
  rcases hshown with hsame | hlock
  · rw [if_pos (hsame ▸ hstatus)]
    rfl
  · rw [hlock, if_neg nofun, hlock]

theorem restoreSlot_refused {call : RestoreCall}
    (h : utf16Length call.newPassword < 8 ∨ sdk.accountIdOf call.mnemonic = none) :
    wp (exec (restoreSlot sdk call)) (fun _ _ => False) (fun s => s = w) (fun _ => True)
      w := by
  unfold restoreSlot
  dsimp only
  split
  · exact wp_throw rfl
  · rename_i hlength
    refine wp_computed (fun id hid => ?_) rfl trivial
    rw [h.resolve_left hlength] at hid
    exact nomatch hid

theorem reseal_refused {accountId : Option String} {old new : String} (h : old = "" ∨
      utf16Length new < 8 ∨ old = new ∨ WrongPassword w (resolveStoreKey accountId w.session) old) :
    wp (exec (reseal accountId old new)) (fun _ _ => False) (fun s => s = w)
      (fun _ => True) w := by
  by_cases hold : old = ""
  · unfold reseal
    rw [if_pos (.inl hold)]
    exact wp_throw rfl
  · refine wp_mono (reseal_spec accountId old new w) ?_ (fun _ hs => hs) fun _ _ => trivial
    rintro r s ⟨-, hr⟩
    rcases h.resolve_left hold with hlength | hsame | hwrong
    · exact absurd hr.length (Nat.not_le.2 hlength)
    · exact hr.ne hsame
    · obtain ⟨a, -, hmain⟩ := hr.main
      refine wrongPassword_ne hwrong a ?_
      rw [← hr.storeKey, hmain, bind_some, Value.openAccount, Sealed.opened_mk]

theorem purgeAccount_refused {accountId : Option String} (h : password = "" ∨
      WrongPassword w (resolveStoreKey accountId w.session) password) :
    wp (Task.exec (Browser.purgeAccount accountId password)) (fun _ _ => False)
      (fun s => s = w) (fun _ => True) w := by
  unfold Browser.purgeAccount
  split
  · exact wp_throw rfl
  · rename_i hblank
    refine wp_got (wp_seq (wp_mono (unlockKeystoreAccount_spec _ _ _)
      (fun _ _ hs => hs) (fun _ hs => hs) fun _ _ => trivial) ?_)
    exact fun b s hs => (wrongPassword_ne (h.resolve_left hblank) b hs.2).elim

/-- Where no client is held, there is nothing to disconnect. -/
theorem disconnect_nothing (h : w.sdkClient = none) :
    wp (exec disconnectRuntimeForAuthOperation) (fun _ s => s = w.letGo)
      (fun _ => False) (fun _ => True) w := by
  unfold disconnectRuntimeForAuthOperation disconnect closeClient
  rw [exec_called, exec_called, exec_called, exec_called]
  refine wp_got (wp_modified ?_)
  rw [h]
  exact wp_pure rfl

theorem Well.locked_offline (h : Well w) (hlocked : w.session.status = .locked) :
    w.sdkClient = none := by
  refine (h.agrees.offline ?_).1
  rw [hlocked]
  exact nofun

/-- A call that is refused where it does no harm. -/
theorem call_refused (h : Well w) {op : AuthOp} (hrefused : Refused sdk w op)
    (hharmless : Harmless w op) : wp (Task.exec (op.call sdk))
      (fun r s => r = none ∧ Untouched w s) (fun s => Untouched w s) (fun _ => True) w := by
  have hnever : ∀ {t : Task World (Option Nat)} {w' : World},
      wp (Task.exec t) (fun _ _ => False) (fun s => Untouched w s) (fun _ => True) w' →
      wp (Task.exec t) (fun r s => r = none ∧ Untouched w s) (fun s => Untouched w s)
        (fun _ => True) w' := fun ht =>
    wp_imp ht (fun _ _ hf => hf.elim)
  cases op with
  | unlock accountId password =>
    refine wp_modified (wp_modified (hnever (relock_refused ⟨rfl, rfl, rfl⟩ rfl hharmless
      (wp_seq (K := fun _ _ => False) ?_ fun _ _ hf => hf.elim))))
    rw [exec_called]
    exact unlock_refused hrefused
  | createAccount call confirmPassword =>
    refine wp_modified ?_
    split
    · exact wp_pure ⟨rfl, rfl, rfl, rfl, rfl⟩
    · rename_i hconfirm
      refine wp_modified (hnever (wp_seq (K := fun _ _ => False) ?_ fun _ _ hf => hf.elim))
      rw [exec_called]
      refine wp_seq (K := fun _ _ => False) ?_ fun _ _ hf => hf.elim
      unfold createSlot
      rw [if_pos (hrefused.resolve_left hconfirm)]
      exact wp_throw ⟨(hharmless.resolve_left hconfirm).symm, rfl, rfl, rfl⟩
  | linkDevice call confirmPassword =>
    refine wp_modified ?_
    split
    · exact wp_pure ⟨rfl, rfl, rfl, rfl, rfl⟩
    · rename_i hconfirm
      refine wp_modified (hnever (wp_seq (K := fun _ _ => False) ?_ fun _ _ hf => hf.elim))
      rw [exec_called]
      refine wp_seq (K := fun _ _ => False) ?_ fun _ _ hf => hf.elim
      unfold linkSlot
      rw [if_pos (hrefused.resolve_left hconfirm)]
      exact wp_throw ⟨(hharmless.resolve_left hconfirm).symm, rfl, rfl, rfl⟩
  | restoreWithMnemonic call =>
    have hclient := h.locked_offline hharmless
    refine wp_modified (wp_modified (wp_seq (wp_mono
      (disconnect_nothing hclient) (fun _ _ hs => hs) (fun _ hf => hf.elim) fun _ hd => hd) ?_))
    rintro - s rfl
    refine wp_modified (hnever (relock_refused ⟨rfl, hclient.symm, rfl⟩ rfl hharmless
      (wp_seq (K := fun _ _ => False) ?_ fun _ _ hf => hf.elim)))
    rw [exec_called]
    refine wp_seq (K := fun _ _ => False) (wp_mono (restoreSlot_refused hrefused) (fun _ _ hf => hf) ?_
      fun _ hd => hd) fun _ _ hf => hf.elim
    rintro s rfl
    exact ⟨Spurned.refl _, .inl rfl⟩
  | changePassword old new =>
    refine wp_got ?_
    dsimp only
    split
    · exact wp_throw ⟨rfl, rfl, rfl, rfl⟩
    · rename_i hid
      have hclient := hharmless.resolve_left hid
      refine wp_modified (wp_seq (wp_mono (disconnect_nothing hclient)
        (fun _ _ hs => hs) (fun _ hf => hf.elim) fun _ hd => hd) ?_)
      rintro - s rfl
      refine hnever (wp_seq (K := fun _ _ => False) ?_ fun _ _ hf => hf.elim)
      rw [exec_called]
      refine wp_seq (K := fun _ _ => False) (wp_mono (reseal_refused (hrefused.resolve_left hid))
        (fun _ _ hf => hf) ?_ fun _ hd => hd) fun _ _ hf => hf.elim
      rintro s rfl
      exact ⟨rfl, rfl, hclient.symm, rfl⟩
  | purgeAccount accountId password =>
    refine wp_got ?_
    dsimp only
    split
    · exact wp_throw ⟨rfl, rfl, rfl, rfl⟩
    · rename_i hid
      have hclient := hharmless.resolve_left hid
      refine wp_modified (wp_seq (wp_mono (disconnect_nothing hclient)
        (fun _ _ hs => hs) (fun _ hf => hf.elim) fun _ hd => hd) ?_)
      rintro - s rfl
      refine hnever (wp_seq (K := fun _ _ => False) ?_ fun _ _ hf => hf.elim)
      rw [exec_called]
      refine wp_mono (purgeAccount_refused (hrefused.resolve_left hid)) (fun _ _ hf => hf) ?_
        fun _ hd => hd
      rintro s rfl
      exact ⟨rfl, rfl, hclient.symm, rfl⟩
  | lock => exact hrefused.elim

theorem task_refused (h : Well w) {op : AuthOp} (hrefused : Refused sdk w op)
    (hharmless : Harmless w op) : wp (Task.exec (op.task sdk))
      (fun _ s => Untouched w s) (fun s => Untouched w s) (fun _ => True) w := by
  refine wp_seq (call_refused h hrefused hharmless) ?_
  rintro _ s ⟨rfl, hs⟩
  exact wp_pure hs

/-! ## Runs -/

theorem good_reloaded (w : World) : Good w.reloaded := by
  refine .inr (.inr ⟨⟨⟨?_, ?_⟩, ?_, fun _ => ⟨rfl, rfl⟩⟩, .inr ?_, ?_⟩)
  · intro h
    cases h
  · intro h
    cases h
  · intro a h
    cases h
  · intro n h
    cases h
  · intro c i h
    cases h

/-- **One step** under the condition. -/
theorem Well.step (h : Well w) {e : AuthOp × List Fate} (he : Spared sdk w e) :
    Well (step sdk w e) := by
  have hgood : Good (Session.step sdk w e) := by
    have hends := task_good h e.1 he.unrejected
    unfold Session.step
    unfold Ends at hends
    generalize exec (e.1.task sdk) e.2 w = end' at hends ⊢
    obtain ⟨a | _ | _, s, fates'⟩ := end'
    · exact hends
    · exact hends
    · exact good_reloaded s
  rcases hgood with hhalfway | hleaked | ⟨hagrees, hkept⟩
  · exact absurd (he.whole.symm.trans hhalfway) false_ne_true
  · exact absurd (he.stopped.symm.trans hleaked) false_ne_true
  · exact ⟨hagrees, hkept, he.whole, he.stopped⟩

theorem Well.lawful (h : Well w) {e : AuthOp × List Fate} (he : Spared sdk w e) :
    Lawful sdk w e := by
  refine ⟨(h.step he).agrees, fun hrefused => ?_⟩
  have hends : Ends _ _ _ _ e.2 w := ends_of_wp (task_refused h hrefused (he.harmless hrefused))
  unfold Session.step
  unfold Ends at hends
  generalize exec (e.1.task sdk) e.2 w = end' at hends ⊢
  obtain ⟨a | _ | _, s, fates'⟩ := end'
  · exact .inr hends
  · exact .inr hends
  · exact .inl rfl

/-- **The page shows what is unlocked**, and only then is a runtime connected, throughout every run
whose calls meet the condition; and what is refused changes none of it. -/
theorem run_agrees (sdk : Sdk) (w : World) (h : Well w) (events : List (AuthOp × List Fate))
    (hevents : Runs.Meets (step sdk) (Spared sdk) w events) :
    Runs.Meets (step sdk) (Lawful sdk) w events :=
  Runs.meets_of_invariant (step sdk) (I := Well) (fun _ _ h he => h.step he)
    (fun _ _ h he => h.lawful he) events w h hevents

section Ann

theorem annWorld_well : Well annWorld := by
  refine ⟨⟨⟨?_, ?_⟩, ?_, fun _ => ⟨rfl, rfl⟩⟩, ⟨.inr ?_, ?_⟩, rfl, rfl⟩
  · intro h
    cases h
  · intro h
    cases h
  · intro a h
    cases h
  · intro n h
    cases h
  · intro c i h
    cases h

def annUnlocks (password : String) : AuthOp × List Fate := (.unlock none password, [])

/-- Ann unlocks her account, and then types a wrong password. The page goes back to the locked
screen, and the account stays unlocked and its runtime connected. -/
theorem locked_over_account :
    ¬Runs.Meets (step annSdk) (Lawful annSdk) annWorld
      [annUnlocks "password0", annUnlocks "password1"] ∧
    (Runs.run (step annSdk) annWorld
      [annUnlocks "password0", annUnlocks "password1"]).running ≠ [] := by
  refine ⟨fun h => ?_, by decide⟩
  have hsome := h.2.1.agrees.unlocked.2 (by decide)
  exact absurd hsome (by decide)

/-- A wrong password at the locked screen, then the right one, and then the lock. -/
theorem run_agrees_ann :
    Runs.Meets (step annSdk) (Lawful annSdk) annWorld
      [annUnlocks "password1", annUnlocks "password0", (.lock, [])] := by
  refine run_agrees annSdk annWorld annWorld_well _
    ⟨⟨fun _ => rfl, ?_, by decide, by decide⟩, ⟨?_, ?_, by decide, by decide⟩,
      ⟨fun _ => trivial, fun _ => ⟨ends_of_wp (wp_pure trivial)⟩, by decide, by decide⟩,
      trivial⟩
  · intro h
    cases h
  · intro _
    have hlocked :
        (step annSdk annWorld (annUnlocks "password1")).session.status = .locked := by decide
    exact hlocked
  · intro h
    exact absurd h (by decide)

end Ann

end RezChat.Browser.Session
