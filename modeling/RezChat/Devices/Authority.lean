/-
What an account is known to have revoked (`services/ServerAccountMutationService.js`, the two
readers).

A reader fetches the authority state that an account has published, its own or a peer's, and
keeps it for five minutes. What it answers decides whose messages are admitted, so it should
never know less than it did: a certificate that was reported revoked stays revoked, and no
epoch is reported below one that was accepted.

The cache cannot lose any of that by itself, since an expired entry is only ever replaced by
the next answer. But nothing compares the answer with the entry, whose epoch is kept and never
read: a record that is older than the one accepted, or none at all, takes its place. So the
readers know exactly as much as the answers do (`reports_monotone_iff`).
-/
import RezChat.Inbox.Frame
import RezChat.Lib.OrdMap
import RezChat.Lib.Runs

set_option autoImplicit false

namespace RezChat.Devices

open Inbox (trim)
open List

/-! ## Authority states -/

/-- What a revocation is checked against. -/
structure DeviceCert where
  certId : String
  issuedAtMs : Int

/-- `revocationState`, as the readers hand it out. -/
structure RevocationState where
  revokedCertIds : List String
  minValidIssuedAtMs : Int
  deriving DecidableEq

/-- The `revocationState` of an opened record. A field that is not of its type is `none`. -/
structure OpenedRevocations where
  revokedCertIds : Option (List String)
  minValidIssuedAtMs : Option Int

/-- `#project`: null when nothing is revoked. -/
def project : Option OpenedRevocations → Option RevocationState
  | none => none
  | some r =>
    if r.revokedCertIds.getD [] = [] ∧ r.minValidIssuedAtMs.getD 0 = 0 then none
    else some ⟨r.revokedCertIds.getD [], r.minValidIssuedAtMs.getD 0⟩

/-- The certificate is revoked, by name or by its age. -/
def Revokes : Option RevocationState → DeviceCert → Prop
  | none, _ => False
  | some r, cert => cert.certId ∈ r.revokedCertIds ∨ cert.issuedAtMs < r.minValidIssuedAtMs

/-! ## The readers -/

/-- Whose authority state is asked for. -/
inductive Account where
  | own
  | peer (peerAccountId : String)
  deriving DecidableEq

/-- An entry of `#authorityStateCache`, or `#ownAuthorityCache`. -/
structure Accepted where
  revocationState : Option RevocationState
  epoch : Int
  fetchedAtMs : Int

/-- What a call answered. A disabled service answers a peer's state without any epoch. -/
structure Report where
  account : Account
  revocationState : Option RevocationState
  epoch : Option Int
  deriving DecidableEq

def Accepted.report (account : Account) (a : Accepted) : Report :=
  ⟨account, a.revocationState, some a.epoch⟩

/-- What comes of a fetch: nothing was published, or a record that opens and verifies, or the
fetch fails somewhere. -/
inductive HomeAnswer where
  | noRecord
  | opened (revocationState : Option OpenedRevocations) (epoch : Int)
  | failed

/-- What is cached of an answer, if it is an answer. -/
def HomeAnswer.accepted (nowMs : Int) : HomeAnswer → Option Accepted
  | .noRecord => some ⟨none, 0, nowMs⟩
  | .opened revocationState epoch => some ⟨project revocationState, epoch, nowMs⟩
  | .failed => none

/-- The service, as far as its readers go. `fetches` are the calls that wait for the home.
`reports` is what the calls answered, and `answers` what the home answered them, with what a
disabled service answers of itself; both newest first, and nothing reads them. -/
structure Readers where
  cache : OrdMap Account Accepted
  fetches : OrdMap Nat Account
  begun : Nat
  reports : List Report
  answers : List Report

namespace Readers

def fresh : Readers := ⟨OrdMap.empty, OrdMap.empty, 0, [], []⟩

/-- A call answers out of the cache. -/
def repeatOf (r : Report) (d : Readers) : Readers := { d with reports := r :: d.reports }

/-- A call answers something that was not in the cache. -/
def hear (r : Report) (d : Readers) : Readers :=
  { d with
    reports := r :: d.reports
    answers := r :: d.answers }

def fetch (account : Account) (d : Readers) : Readers :=
  { d with
    fetches := d.fetches.set d.begun account
    begun := d.begun + 1 }

end Readers

/-- `AUTHORITY_STATE_CACHE_TTL_MS`. -/
def authorityStateCacheTtlMs : Int := 5 * 60 * 1000

/-- The part that the two readers share: the cache, unless it has expired, else a fetch. -/
def readState (account : Account) (forceRefresh : Bool) (nowMs : Int) (d : Readers) : Readers :=
  match d.cache.get? account with
  | some existing =>
    if forceRefresh = false ∧ nowMs - existing.fetchedAtMs < authorityStateCacheTtlMs then
      d.repeatOf (existing.report account)
    else d.fetch account
  | none => d.fetch account

/-- `getPeerRevocationState`. -/
def getPeerRevocationState (isEnabled : Bool) (peerAccountId : String) (forceRefresh : Bool)
    (nowMs : Int) (d : Readers) : Readers :=
  if isEnabled = true then
    if trim peerAccountId = "" then d
    else readState (.peer (trim peerAccountId)) forceRefresh nowMs d
  else d.hear ⟨.peer (trim peerAccountId), none, none⟩

/-- `getOwnAuthorityState`. Without its surfaces it answers that nothing is established. -/
def getOwnAuthorityState (available : Bool) (forceRefresh : Bool) (nowMs : Int) (d : Readers) :
    Readers :=
  if available = true then readState .own forceRefresh nowMs d else d

/-- The rest of a call whose fetch has ended. A failure is thrown, or answered as not
established, and not cached. -/
def settleFetch (i : Nat) (answer : HomeAnswer) (nowMs : Int) (d : Readers) : Readers :=
  match d.fetches.get? i with
  | none => d
  | some account =>
    match answer.accepted nowMs with
    | none => { d with fetches := d.fetches.delete i }
    | some a =>
      { d with
        fetches := d.fetches.delete i
        cache := d.cache.set account a }.hear (a.report account)

/-- `invalidate`, of a peer, and `invalidateOwnAuthorityState`. -/
def invalidateState (account : Account) (d : Readers) : Readers :=
  { d with cache := d.cache.delete account }

/-! ## Runs -/

inductive ReaderEvent where
  | peerRevocationState (isEnabled : Bool) (peerAccountId : String) (forceRefresh : Bool)
      (nowMs : Int)
  | ownAuthorityState (available : Bool) (forceRefresh : Bool) (nowMs : Int)
  | answer (i : Nat) (answer : HomeAnswer) (nowMs : Int)
  | invalidate (account : Account)

def Readers.step (d : Readers) : ReaderEvent → Readers
  | .peerRevocationState isEnabled peerAccountId forceRefresh nowMs =>
    getPeerRevocationState isEnabled peerAccountId forceRefresh nowMs d
  | .ownAuthorityState available forceRefresh nowMs =>
    getOwnAuthorityState available forceRefresh nowMs d
  | .answer i answer nowMs => settleFetch i answer nowMs d
  | .invalidate account => invalidateState account d

/-- The service from its start. -/
def readerRun (events : List ReaderEvent) : Readers := Runs.run Readers.step Readers.fresh events

/-! ## The law -/

/-- A report about an account knows what an earlier one knew. -/
def Report.KnowsAllOf (later earlier : Report) : Prop :=
  later.account = earlier.account →
    (∀ cert, Revokes earlier.revocationState cert → Revokes later.revocationState cert) ∧
      ∀ e ∈ earlier.epoch, ∀ e' ∈ later.epoch, e ≤ e'

/-- No report knows less than one before it. The newest comes first. -/
def Monotone (reports : List Report) : Prop := reports.Pairwise Report.KnowsAllOf

theorem Report.KnowsAllOf.refl (r : Report) : r.KnowsAllOf r := by
  refine fun _ => ⟨fun _ h => h, fun e he e' he' => ?_⟩
  rw [Option.mem_unique he he']

/-- The report of a service that is disabled says nothing. -/
def Report.Silent (r : Report) : Prop := r.revocationState = none ∧ r.epoch = none

theorem Report.knowsAllOf_of_silent {later earlier : Report} (h : earlier.Silent) :
    later.KnowsAllOf earlier := by
  obtain ⟨hstate, hepoch⟩ := h
  refine fun _ => ⟨fun cert hcert => ?_, fun e he => ?_⟩
  · rw [hstate] at hcert
    exact hcert.elim
  · rw [hepoch] at he
    exact absurd he (Option.not_mem_none e)

/-- The cache holds the last answer of each account, if it holds any, and what was reported had
been answered. -/
structure Grounded (d : Readers) : Prop where
  cached : ∀ account a, d.cache.get? account = some a →
    ∃ newer older, d.answers = newer ++ a.report account :: older ∧
      ∀ r ∈ newer, r.account = account → r.Silent
  reported : ∀ r ∈ d.reports, r ∈ d.answers
  answered : d.answers.Sublist d.reports
  monotone : Monotone d.answers → Monotone d.reports

section Steps

variable {d : Readers}

/-- A cached answer knows what was reported of its account so far. -/
theorem Grounded.cached_knows (h : Grounded d) (hmono : Monotone d.answers) {account : Account}
    {a : Accepted} (hcached : d.cache.get? account = some a) {r : Report} (hr : r ∈ d.reports) :
    (a.report account).KnowsAllOf r := by
  obtain ⟨newer, older, hanswers, hsilent⟩ := h.cached account a hcached
  have hmem : r ∈ newer ++ a.report account :: older := hanswers ▸ h.reported r hr
  have hpairs : (a.report account :: older).Pairwise Report.KnowsAllOf := by
    rw [Monotone, hanswers] at hmono
    exact (pairwise_append.1 hmono).2.1
  rcases List.mem_append.1 hmem with hnewer | hrest
  · intro hsame
    exact Report.knowsAllOf_of_silent (hsilent r hnewer hsame.symm) hsame
  · rcases mem_cons.1 hrest with heq | holder
    · rw [heq]
      exact Report.KnowsAllOf.refl _
    · exact (pairwise_cons.1 hpairs).1 r holder

theorem Grounded.repeatOf (h : Grounded d) {account : Account} {a : Accepted}
    (hcached : d.cache.get? account = some a) : Grounded (d.repeatOf (a.report account)) where
  cached := h.cached
  reported r hr := by
    rcases mem_cons.1 hr with heq | hold
    · obtain ⟨newer, older, hanswers, -⟩ := h.cached account a hcached
      show r ∈ d.answers
      rw [hanswers, heq]
      exact mem_append_right _ mem_cons_self
    · exact h.reported r hold
  answered := h.answered.cons _
  monotone hmono :=
    pairwise_cons.2 ⟨fun _ hr => h.cached_knows hmono hcached hr, h.monotone hmono⟩

/-- A report that was not in the cache: what is cached afterwards is the same, up to the
account that it is about. -/
theorem Grounded.hear (h : Grounded d) {r : Report} {cache : OrdMap Account Accepted}
    {fetches : OrdMap Nat Account}
    (hcache : ∀ account a, cache.get? account = some a → a.report account = r ∨
      d.cache.get? account = some a ∧ (r.account = account → r.Silent)) :
    Grounded (({ d with
      fetches := fetches
      cache := cache } : Readers).hear r) where
  cached account a hget := by
    rcases hcache account a hget with heq | ⟨hcached, hsilent⟩
    · exact ⟨[], d.answers, by rw [heq]; rfl, fun _ hr => absurd hr not_mem_nil⟩
    · obtain ⟨newer, older, hanswers, hnewer⟩ := h.cached account a hcached
      refine ⟨r :: newer, older, ?_, fun r' hr' => ?_⟩
      · show r :: d.answers = _
        rw [hanswers, cons_append]
      · rcases mem_cons.1 hr' with heq | hold
        · rw [heq]
          exact hsilent
        · exact hnewer r' hold
  reported r' hr' := by
    rcases mem_cons.1 hr' with heq | hold
    · rw [heq]
      exact mem_cons_self
    · exact mem_cons_of_mem _ (h.reported r' hold)
  answered := h.answered.cons_cons r
  monotone hmono := by
    obtain ⟨hknows, hrest⟩ := pairwise_cons.1 hmono
    exact pairwise_cons.2 ⟨fun r' hr' => hknows r' (h.reported r' hr'), h.monotone hrest⟩

theorem Grounded.readState (h : Grounded d) (account : Account) (forceRefresh : Bool)
    (nowMs : Int) : Grounded (readState account forceRefresh nowMs d) := by
  have hfetch : Grounded (d.fetch account) := ⟨h.cached, h.reported, h.answered, h.monotone⟩
  unfold Devices.readState
  cases hcached : d.cache.get? account with
  | none => exact hfetch
  | some existing =>
    dsimp only
    by_cases hfresh : forceRefresh = false ∧
        nowMs - existing.fetchedAtMs < authorityStateCacheTtlMs
    · rw [if_pos hfresh]
      exact h.repeatOf hcached
    · rw [if_neg hfresh]
      exact hfetch

/-- **One step** of the service leaves it grounded. -/
theorem Grounded.step (h : Grounded d) (e : ReaderEvent) : Grounded (d.step e) := by
  cases e with
  | peerRevocationState isEnabled peerAccountId forceRefresh nowMs =>
    show Grounded (getPeerRevocationState isEnabled peerAccountId forceRefresh nowMs d)
    unfold getPeerRevocationState
    by_cases henabled : isEnabled = true
    · rw [if_pos henabled]
      by_cases hblank : trim peerAccountId = ""
      · rw [if_pos hblank]
        exact h
      · rw [if_neg hblank]
        exact h.readState _ forceRefresh nowMs
    · rw [if_neg henabled]
      -- nothing was cached, and the report says nothing
      exact h.hear fun account a hcached => .inr ⟨hcached, fun _ => ⟨rfl, rfl⟩⟩
  | ownAuthorityState available forceRefresh nowMs =>
    show Grounded (getOwnAuthorityState available forceRefresh nowMs d)
    unfold getOwnAuthorityState
    by_cases havailable : available = true
    · rw [if_pos havailable]
      exact h.readState .own forceRefresh nowMs
    · rw [if_neg havailable]
      exact h
  | answer i answer nowMs =>
    show Grounded (settleFetch i answer nowMs d)
    unfold settleFetch
    cases d.fetches.get? i with
    | none => exact h
    | some account =>
      dsimp only
      cases answer.accepted nowMs with
      | none => exact ⟨h.cached, h.reported, h.answered, h.monotone⟩
      | some a =>
        refine h.hear fun account' a' hget => ?_
        rw [OrdMap.get?_set] at hget
        by_cases hsame : account' = account
        · rw [if_pos hsame] at hget
          rw [hsame, ← Option.some_inj.1 hget]
          exact .inl rfl
        · rw [if_neg hsame] at hget
          exact .inr ⟨hget, fun heq => absurd heq.symm hsame⟩
  | invalidate account =>
    refine ⟨fun account' a hget => ?_, h.reported, h.answered, h.monotone⟩
    have hdeleted : (d.cache.delete account).get? account' = some a := hget
    rw [OrdMap.get?_delete] at hdeleted
    by_cases hsame : account' = account
    · rw [if_pos hsame] at hdeleted
      exact absurd hdeleted (by simp)
    · rw [if_neg hsame] at hdeleted
      exact h.cached account' a hdeleted

end Steps

theorem grounded_fresh : Grounded Readers.fresh where
  cached _ _ hget := absurd hget (by simp [Readers.fresh])
  reported _ hr := absurd hr not_mem_nil
  answered := List.Sublist.refl _
  monotone h := h

theorem grounded_run (events : List ReaderEvent) : Grounded (readerRun events) :=
  Runs.invariant_all Readers.step (fun _ e h => h.step e) events Readers.fresh grounded_fresh

/-- **Nothing is reported that was not answered.** In every run every answer is reported, in the order
of the answers, and nothing else is; and what is cached of an account is the last that was answered
of it but for answers that say nothing. -/
theorem run_reportsAnswers (events : List ReaderEvent) :
    (∀ r ∈ (readerRun events).reports, r ∈ (readerRun events).answers) ∧
      (readerRun events).answers.Sublist (readerRun events).reports ∧
      ∀ account a, (readerRun events).cache.get? account = some a →
        ∃ newer older, (readerRun events).answers = newer ++ a.report account :: older ∧
          ∀ r ∈ newer, r.account = account → r.Silent := by
  have h := grounded_run events
  exact ⟨h.reported, h.answered, h.cached⟩

/-- In every run, what the readers report of an account never goes back if and only if the
answers that they get never do: those of the home, and the one that a disabled service gives of
itself. -/
theorem reports_monotone_iff (events : List ReaderEvent) :
    Monotone (readerRun events).reports ↔ Monotone (readerRun events).answers := by
  have h := grounded_run events
  constructor
  · intro hmono
    exact List.Pairwise.sublist h.answered hmono
  · exact h.monotone

/-- A peer has revoked `c1`; after the entry has expired, the home answers that the peer has
published nothing. -/
def forgottenEvents : List ReaderEvent :=
  [.peerRevocationState true "bob" false 0,
    .answer 0 (.opened (some ⟨some ["c1"], some 0⟩) 4) 0,
    .peerRevocationState true "bob" false 300000,
    .answer 1 .noRecord 300000]

/-- So `c1` is not revoked any more. -/
theorem revocation_forgotten : ¬ ∀ events, Monotone (readerRun events).reports := by
  intro h
  have hreports : (readerRun forgottenEvents).reports =
      [⟨.peer "bob", none, some 0⟩, ⟨.peer "bob", some ⟨["c1"], 0⟩, some 4⟩] := by decide
  have hknows := h forgottenEvents
  rw [hreports] at hknows
  have hfirst := (pairwise_cons.1 hknows).1 _ mem_cons_self rfl
  exact hfirst.1 ⟨"c1", 0⟩ (.inl (by decide))

end RezChat.Devices
