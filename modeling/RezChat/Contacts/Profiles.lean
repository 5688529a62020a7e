/-
Profile updates of one contact (`handleIncomingProfile` of `services/ServerProfileService.js`), in
any order, while the row of the contact is written for other reasons too.

A call reads the row, and writes it in a later turn; calls on one contact come between each other.
`handleIncomingProfile` reads the row once to decide whether the update is new, and `upsert` reads it
again.

The update carries the time at which its sender made it, and it is compared with the `updatedAtMs`
of the row, which `upsert` takes from the clock of this device at every write: a block, a rename, or
an older update. The row says nothing of the time of the update whose name it shows. And an update
without an avatar leaves the one that the row has. Where the row happens to order the updates as
their own times do, and no call undoes what another wrote, the row shows the latest
(`run_converges`).
-/
import RezChat.Contacts.Service
import RezChat.Lib.Runs
import RezChat.Lib.Table

set_option autoImplicit false

namespace RezChat.Contacts

open Inbox (trim)
open List Option ContactsService Table ChatContact Runs

/-! ## Calls -/

/-- What a call waits for. `reading` is the first read of `handleIncomingProfile`; `upserting` is
the read of `upsert`, and `writing` its write. -/
inductive CallPhase where
  | reading
  | upserting (patch : Patch)
  | writing (next : ChatContact)
  | deleting
  | done
  | failed
  deriving DecidableEq

/-- A call on the row of the contact, with the update that it handles; a local write handles
none. -/
structure RowCall where
  profile : Option Profile
  phase : CallPhase

/-- The update that a call has handled. -/
def RowCall.delivered (call : RowCall) : Option Profile :=
  if call.phase = .done then call.profile else none

theorem RowCall.delivered_eq {call : RowCall} {p : Profile} (h : call.delivered = some p) :
    call.profile = some p := by
  rw [RowCall.delivered] at h
  by_cases hdone : call.phase = .done
  · rwa [if_pos hdone] at h
  · rw [if_neg hdone] at h
    cases h

/-- The row of the contact, and the calls on it. -/
structure ContactRow where
  contact : Option ChatContact
  calls : List RowCall

namespace ContactRow

def start (c : ChatContact) : ContactRow := ⟨some c, []⟩

/-- The updates whose calls are over. -/
def delivered (s : ContactRow) : List Profile := s.calls.filterMap RowCall.delivered

def setPhase (s : ContactRow) (k : Nat) (call : RowCall) (phase : CallPhase) : ContactRow :=
  { s with calls := s.calls.set k { call with phase := phase } }

/-- What `handleIncomingProfile` makes of the row it read. -/
def profileRead (p : Profile) (nowMs : Int) : Option ChatContact → CallPhase
  | none => .done
  | some c =>
    if p.updatedAtMs ≤ c.updatedAtMs then .done
    else .upserting ⟨none, some p.displayName, orNone p.avatarFileHash, some nowMs⟩

/-- What `upsert` makes of the row it read. -/
def upsertRead (patch : Patch) (nowMs : Int) (existing : Option ChatContact) : CallPhase :=
  if nameFits (patch.displayName.or (existing.bind displayName)) = true then
    .writing (patch.apply existing nowMs)
  else .failed

/-- What a call awaits takes effect, or fails without one, and the call goes on. -/
def turn (s : ContactRow) (k : Nat) (nowMs : Int) (ok : Bool) : ContactRow :=
  match s.calls[k]? with
  | none => s
  | some call =>
    match call.phase, ok with
    | .done, _ => s
    | .failed, _ => s
    | _, false => s.setPhase k call .failed
    | .reading, true =>
      match call.profile with
      | some p => s.setPhase k call (profileRead p nowMs s.contact)
      | none => s.setPhase k call .done
    | .upserting patch, true => s.setPhase k call (upsertRead patch nowMs s.contact)
    | .writing next, true => { s.setPhase k call .done with contact := some next }
    | .deleting, true => { s.setPhase k call .done with contact := none }

/-! ## Runs -/

/-- An update comes in; the row is written, or deleted, for another reason; a call goes on. -/
inductive Event where
  | deliver (profile : Profile)
  | upsert (patch : Patch)
  | delete
  | turn (k : Nat) (nowMs : Int) (ok : Bool)

def step (s : ContactRow) : Event → ContactRow
  | .deliver p => { s with calls := s.calls ++ [⟨some p, .reading⟩] }
  | .upsert patch => { s with calls := s.calls ++ [⟨none, .upserting patch⟩] }
  | .delete => { s with calls := s.calls ++ [⟨none, .deleting⟩] }
  | .turn k nowMs ok => s.turn k nowMs ok

def after (c : ChatContact) (es : List Event) : ContactRow := run step (start c) es

/-- The row has the name and the avatar of the update. -/
structure Shows (c : ChatContact) (p : Profile) : Prop where
  displayName : c.displayName = trimmedName (some p.displayName)
  avatarFileHash : c.avatarFileHash = trim p.avatarFileHash

/-- The row shows the latest of the updates that were delivered. -/
def Converged (s : ContactRow) : Prop :=
  ∀ p ∈ s.delivered, (∀ q ∈ s.delivered, q.updatedAtMs ≤ p.updatedAtMs) → ∀ c ∈ s.contact, Shows c p

/-- The update is later than each that was delivered. -/
def Latest (s : ContactRow) (p : Profile) : Prop := ∀ q ∈ s.delivered, q.updatedAtMs < p.updatedAtMs

instance (s : ContactRow) (p : Profile) : Decidable (s.Latest p) :=
  inferInstanceAs (Decidable (∀ q ∈ s.delivered, q.updatedAtMs < p.updatedAtMs))

/-- The row that is to be written has the name and the avatar of the row as it is. -/
def agrees (s : ContactRow) (next : ChatContact) : Bool :=
  s.contact.any fun c =>
    c.displayName == next.displayName && c.avatarFileHash == next.avatarFileHash

/-- What a call that goes on needs: the update is later than the row exactly if it is later than the
updates before; when it is written, none that is later has come in, and it has an avatar or there
was none; and any other write leaves the name and the avatar that an update wrote. -/
def CallOrdered (s : ContactRow) (call : RowCall) : Prop :=
  match call.profile, call.phase with
  | some p, .reading => ∀ c ∈ s.contact, s.Latest p ↔ c.updatedAtMs < p.updatedAtMs
  | some p, .writing next => s.Latest p ∧ (p.avatarFileHash = "" → next.avatarFileHash = "")
  | none, .writing next => s.delivered = [] ∨ s.agrees next = true
  | _, _ => True

instance (s : ContactRow) : ∀ call, Decidable (s.CallOrdered call)
  | ⟨some p, .reading⟩ =>
    inferInstanceAs (Decidable (∀ c ∈ s.contact, s.Latest p ↔ c.updatedAtMs < p.updatedAtMs))
  | ⟨some p, .writing next⟩ => inferInstanceAs
      (Decidable (s.Latest p ∧ (p.avatarFileHash = "" → next.avatarFileHash = "")))
  | ⟨none, .writing next⟩ =>
    inferInstanceAs (Decidable (s.delivered = [] ∨ s.agrees next = true))
  | ⟨some _, .upserting _⟩ => isTrue trivial
  | ⟨some _, .deleting⟩ => isTrue trivial
  | ⟨some _, .done⟩ => isTrue trivial
  | ⟨some _, .failed⟩ => isTrue trivial
  | ⟨none, .reading⟩ => isTrue trivial
  | ⟨none, .upserting _⟩ => isTrue trivial
  | ⟨none, .deleting⟩ => isTrue trivial
  | ⟨none, .done⟩ => isTrue trivial
  | ⟨none, .failed⟩ => isTrue trivial

/-- The updates are of the given ones, and the calls that go on are ordered. -/
def Ordered (updates : List Profile) (s : ContactRow) : Event → Prop
  | .deliver p => p ∈ updates
  | .turn k _ ok => ok = true → ∀ call ∈ s.calls[k]?, s.CallOrdered call
  | .upsert _ => True
  | .delete => True

instance (updates : List Profile) (s : ContactRow) : ∀ e, Decidable (s.Ordered updates e)
  | .deliver p => inferInstanceAs (Decidable (p ∈ updates))
  | .turn k _ ok =>
    inferInstanceAs (Decidable (ok = true → ∀ call ∈ s.calls[k]?, s.CallOrdered call))
  | .upsert _ => isTrue trivial
  | .delete => isTrue trivial

/-! ## Calls that nothing comes between -/

/-- The turns of the call `k`, one after another. -/
def handled (k : Nat) (nowMs : Int) : List Event :=
  [.turn k nowMs true, .turn k nowMs true, .turn k nowMs true]

section Alone

open ContactStore

variable {ω α β : Type} {a : String}

theorem bind_alone {w w' : World ω} {p : Proc (World ω) α} {k : α → Proc (World ω) β} {x : α}
    (h : p [] w = ⟨.returned x, w', []⟩) : (p >>= k) [] w = k x [] w' := by
  show Proc.andThen p k [] w = _
  rw [Proc.andThen, h]

theorem state_bind_pure (p : Proc (World ω) α) (x : β) (w : World ω) :
    ((p >>= fun _ => pure x) [] w).state = (p [] w).state := by
  show (Proc.andThen p (fun _ => pure x) [] w).state = _
  rw [Proc.andThen]
  obtain ⟨outcome, w', fates⟩ := p [] w
  cases outcome with
  | returned a => rfl
  | threw => rfl
  | died => rfl

theorem get_alone (hid : trim a ≠ "") (w : World ω) :
    ContactStore.get a [] w = ⟨.returned (w.contact a), w, []⟩ := by
  rw [ContactStore.get, withId, if_neg hid]
  rfl

theorem upsertRead_cases (patch : Patch) (nowMs : Int) (existing : Option ChatContact) :
    (∃ next, upsertRead patch nowMs existing = .writing next) ∨
      upsertRead patch nowMs existing = .failed := by
  rw [upsertRead]
  by_cases hfits : nameFits (patch.displayName.or (existing.bind displayName)) = true
  · exact .inl ⟨_, if_pos hfits⟩
  · exact .inr (if_neg hfits)

theorem upsert_alone (patch : Patch) (nowMs : Int) (w : World ω) (hid : trim a ≠ "") :
    (upsert a patch nowMs [] w).state.contact a =
      match upsertRead patch nowMs (w.contact a) with
      | .writing next => some next
      | _ => w.contact a := by
  rw [upsert, withId, if_neg hid, bind_alone (get_alone hid w), upsertRead]
  by_cases hfits : nameFits (patch.displayName.or ((w.contact a).bind displayName)) = true
  · rw [if_pos hfits, if_pos hfits]
    show (w.withContact a _).contact a = _
    rw [World.contact, World.withContact, OrdMap.get?_set, if_pos rfl]
  · rw [if_neg hfits, if_neg hfits]
    rfl

/-- An update that comes in alone leaves the row that `handleIncomingProfile` leaves. -/
theorem deliver_alone (L : Links ω) (p : Profile) (w : World ω) (hid : trim a ≠ "") :
    (run step ⟨w.contact a, []⟩ (.deliver p :: handled 0 (L.clock w.rest))).contact =
      (handleIncomingProfile L p a [] w).state.contact a := by
  rw [handleIncomingProfile, if_neg hid, bind_alone (get_alone hid w)]
  cases hc : w.contact a with
  | none => exact hc.symm
  | some c =>
    simp only
    by_cases hstamp : p.updatedAtMs ≤ c.updatedAtMs
    · rw [if_pos hstamp]
      have hpassed : profileRead p (L.clock w.rest) (some c) = .done := if_pos hstamp
      simp only [handled, run_cons, run_nil, step, turn, nil_append,
        getElem?_cons_zero, setPhase, hpassed, set_cons_zero]
      exact hc.symm
    · rw [if_neg hstamp]
      have hnow : now L [] w = ⟨.returned (L.clock w.rest), w, []⟩ := rfl
      have hnew : profileRead p (L.clock w.rest) (some c) = .upserting ⟨none, some p.displayName,
        orNone p.avatarFileHash, some (L.clock w.rest)⟩ := if_neg hstamp
      have hupsert := upsert_alone (a := a) ⟨none, some p.displayName,
        orNone p.avatarFileHash, some (L.clock w.rest)⟩ (L.clock w.rest) w hid
      rw [bind_alone hnow, state_bind_pure, hupsert, hc]
      simp only [handled, run_cons, run_nil, step, turn, nil_append,
        getElem?_cons_zero, setPhase, hnew, set_cons_zero]
      rcases upsertRead_cases ⟨none, some p.displayName,
        orNone p.avatarFileHash, some (L.clock w.rest)⟩ (L.clock w.rest) (some c)
        with ⟨next, hread⟩ | hread
      · rw [hread]
      · rw [hread]

end Alone

/-! ## What is kept -/

variable {updates : List Profile} {s : ContactRow} {k : Nat} {call : RowCall}

variable {p : Profile}

theorem mem_delivered :
    p ∈ s.delivered ↔ ∃ call ∈ s.calls, call.delivered = some p := mem_filterMap

/-- What a call has read and not written yet is of its own update. -/
def Prepared : RowCall → Prop
  | ⟨some p, .upserting patch⟩ => patch.displayName = some p.displayName ∧
      patch.avatarFileHash = orNone p.avatarFileHash
  | ⟨some p, .writing next⟩ => next.displayName = trimmedName (some p.displayName) ∧
      (p.avatarFileHash ≠ "" → next.avatarFileHash = trim p.avatarFileHash)
  | _ => True

structure Inv (updates : List Profile) (s : ContactRow) : Prop where
  converged : Converged s
  known : ∀ call ∈ s.calls, ∀ p ∈ call.profile, p ∈ updates
  prepared : ∀ call ∈ s.calls, Prepared call

theorem inv_start (updates : List Profile) (c : ChatContact) : Inv updates (start c) where
  converged _ h := nomatch h
  known _ h := nomatch h
  prepared _ h := nomatch h

variable {phase : CallPhase}

/-- A call that is not over leaves what was delivered as it was. -/
theorem delivered_setPhase (hk : s.calls[k]? = some call)
    (hopen : call.phase ≠ .done) (hphase : phase ≠ .done) (p : Profile) :
    p ∈ (s.setPhase k call phase).delivered ↔ p ∈ s.delivered := by
  have hnew : RowCall.delivered { call with phase := phase } = none := if_neg hphase
  have hold : call.delivered = none := if_neg hopen
  rw [mem_delivered, mem_delivered]
  constructor
  · rintro ⟨c, hc, hp⟩
    rcases mem_set hc with hmem | hset
    · exact ⟨c, hmem, hp⟩
    · rw [hset, hnew] at hp
      cases hp
  · rintro ⟨c, hc, hp⟩
    refine ⟨c, mem_set_of_ne hk hc ?_, hp⟩
    rintro rfl
    rw [hold] at hp
    cases hp

/-- When it is over, its update was delivered. -/
theorem delivered_done (hk : s.calls[k]? = some call) (hopen : call.phase ≠ .done) (p : Profile) :
    p ∈ (s.setPhase k call .done).delivered ↔ p ∈ s.delivered ∨ call.profile = some p := by
  have hnew : RowCall.delivered { call with phase := .done } = call.profile := if_pos rfl
  have hold : call.delivered = none := if_neg hopen
  rw [mem_delivered, mem_delivered]
  constructor
  · rintro ⟨c, hc, hp⟩
    rcases mem_set hc with hmem | hset
    · exact .inl ⟨c, hmem, hp⟩
    · rw [hset, hnew] at hp
      exact .inr hp
  · rintro (⟨c, hc, hp⟩ | hp)
    · refine ⟨c, mem_set_of_ne hk hc ?_, hp⟩
      rintro rfl
      rw [hold] at hp
      cases hp
    · exact ⟨_, mem_set_self hk, hnew.trans hp⟩

/-- The calls after one of them has gone on. -/
theorem Inv.setPhase (h : Inv updates s) (hk : s.calls[k]? = some call)
    (hprepared : Prepared { call with phase := phase }) :
    (∀ c ∈ (s.setPhase k call phase).calls, ∀ p ∈ c.profile, p ∈ updates) ∧
      ∀ c ∈ (s.setPhase k call phase).calls, Prepared c := by
  constructor
  · intro c hc p hp
    rcases mem_set hc with hmem | hset
    · exact h.known c hmem p hp
    · rw [hset] at hp
      exact h.known call (mem_of_getElem? hk) p hp
  · intro c hc
    rcases mem_set hc with hmem | hset
    · exact h.prepared c hmem
    · rw [hset]
      exact hprepared

/-- A call goes on, and neither the row nor what was delivered changes. -/
theorem Inv.goesOn (h : Inv updates s) (hk : s.calls[k]? = some call)
    (hopen : call.phase ≠ .done) (hphase : phase ≠ .done)
    (hprepared : Prepared { call with phase := phase }) : Inv updates (s.setPhase k call phase) := by
  obtain ⟨hknown, hcalls⟩ := h.setPhase hk hprepared
  refine ⟨fun p hp hlatest => ?_, hknown, hcalls⟩
  rw [delivered_setPhase hk hopen hphase] at hp
  exact h.converged p hp fun q hq => hlatest q ((delivered_setPhase hk hopen hphase q).2 hq)

/-- A call is over, and the row is `contact` then, which shows the update if it is the latest. -/
theorem Inv.done (h : Inv updates s) (hk : s.calls[k]? = some call) (hopen : call.phase ≠ .done)
    (contact : Option ChatContact)
    (hshows : ∀ p, (p ∈ s.delivered ∨ call.profile = some p) →
      (∀ q, (q ∈ s.delivered ∨ call.profile = some q) → q.updatedAtMs ≤ p.updatedAtMs) →
      ∀ c ∈ contact, Shows c p) :
    Inv updates { s.setPhase k call .done with contact := contact } := by
  obtain ⟨hknown, hcalls⟩ := h.setPhase hk (show Prepared { call with phase := .done } by
    obtain ⟨profile, phase⟩ := call
    cases profile with
    | none => trivial
    | some p => trivial)
  refine ⟨fun p hp hlatest => ?_, hknown, hcalls⟩
  refine hshows p ((delivered_done hk hopen p).1 hp) fun q hq => ?_
  exact hlatest q ((delivered_done hk hopen q).2 hq)

variable (hdistinct : ∀ p ∈ updates, ∀ q ∈ updates, p.updatedAtMs = q.updatedAtMs → p = q)

include hdistinct in
/-- An update that is passed over is one of those delivered, or older than one of them. -/
theorem Inv.passedOver (h : Inv updates s) {c : ChatContact}
    (hk : s.calls[k]? = some ⟨some p, .reading⟩) (hc : s.contact = some c)
    (hok : s.CallOrdered ⟨some p, .reading⟩) (hstamp : p.updatedAtMs ≤ c.updatedAtMs) :
    Inv updates (s.setPhase k ⟨some p, .reading⟩ .done) := by
  have hlate : ¬ s.Latest p := fun hlatest => absurd ((hok c hc).1 hlatest) (by omega)
  rw [Latest] at hlate
  push Not at hlate
  obtain ⟨q, hq, hpq⟩ := hlate
  refine h.done hk (by simp) s.contact fun r hr hlatest => ?_
  have hsame : r ∈ s.delivered := by
    rcases hr with hr | hr
    · exact hr
    · -- the latest of all is the one that is passed over: it was delivered before
      obtain rfl := some_inj.1 hr
      have hqp : q.updatedAtMs = p.updatedAtMs := le_antisymm (hlatest q (.inl hq)) hpq
      obtain ⟨call, hcall, hdelivered⟩ := mem_delivered.1 hq
      have hqknown := h.known call hcall q (RowCall.delivered_eq hdelivered)
      have hpknown := h.known _ (mem_of_getElem? hk) p rfl
      rwa [← hdistinct q hqknown p hpknown hqp]
  exact h.converged r hsame fun q hq => hlatest q (.inl hq)

include hdistinct in
theorem Inv.profileRead (h : Inv updates s) (nowMs : Int)
    (hk : s.calls[k]? = some ⟨some p, .reading⟩) (hok : s.CallOrdered ⟨some p, .reading⟩) :
    Inv updates (s.setPhase k ⟨some p, .reading⟩ (profileRead p nowMs s.contact)) := by
  cases hc : s.contact with
  | none =>
    -- an account that is no contact is not made one
    have hdone := h.done hk (by simp) none fun _ _ _ c hc => (nomatch hc)
    have heq : { s.setPhase k ⟨some p, .reading⟩ .done with contact := none } =
        s.setPhase k ⟨some p, .reading⟩ .done := by
      rw [ContactRow.setPhase, hc]
    rwa [heq] at hdone
  | some c =>
    rw [ContactRow.profileRead]
    by_cases hstamp : p.updatedAtMs ≤ c.updatedAtMs
    · rw [if_pos hstamp]
      exact h.passedOver hdistinct hk hc hok hstamp
    · rw [if_neg hstamp]
      exact h.goesOn hk (by simp) (by simp) ⟨rfl, rfl⟩

/-- What `upsert` is about to write for an update has its name, and its avatar if it has one. -/
theorem prepared_upsertRead {profile : Option Profile} {patch : Patch} (nowMs : Int)
    (existing : Option ChatContact) (h : Prepared ⟨profile, .upserting patch⟩) :
    Prepared ⟨profile, upsertRead patch nowMs existing⟩ := by
  rw [upsertRead]
  by_cases hfits : nameFits (patch.displayName.or (existing.bind displayName)) = true
  · rw [if_pos hfits]
    cases profile with
    | none => trivial
    | some p =>
      obtain ⟨hname, havatar⟩ := h
      refine ⟨?_, fun hgiven => ?_⟩
      · rw [Patch.apply, hname, some_or]
      · rw [Patch.apply, havatar, orNone, if_neg hgiven, some_or]
        rfl
  · rw [if_neg hfits]
    cases profile with
    | none => trivial
    | some p => trivial

/-- An update is written that is the latest. -/
theorem Inv.profileWritten (h : Inv updates s) {next : ChatContact}
    (hk : s.calls[k]? = some ⟨some p, .writing next⟩)
    (hok : s.CallOrdered ⟨some p, .writing next⟩) :
    Inv updates { s.setPhase k ⟨some p, .writing next⟩ .done with contact := some next } := by
  obtain ⟨hlatest, hcleared⟩ := hok
  obtain ⟨hname, havatar⟩ := h.prepared _ (mem_of_getElem? hk)
  refine h.done hk (by simp) (some next) fun r hr hgreatest c hc => ?_
  obtain rfl := some_inj.1 hc
  have hrp : r = p := by
    rcases hr with hr | hr
    · exact absurd (hgreatest p (.inr rfl)) (by have := hlatest r hr; omega)
    · exact (some_inj.1 hr).symm
  rw [hrp]
  refine ⟨hname, ?_⟩
  by_cases hgiven : p.avatarFileHash = ""
  · rw [hcleared hgiven, hgiven]
    rfl
  · exact havatar hgiven

/-- The row is written for another reason, with the name and the avatar that it has. -/
theorem Inv.localWritten (h : Inv updates s) {next : ChatContact}
    (hk : s.calls[k]? = some ⟨none, .writing next⟩) (hok : s.CallOrdered ⟨none, .writing next⟩) :
    Inv updates { s.setPhase k ⟨none, .writing next⟩ .done with contact := some next } := by
  refine h.done hk (by simp) (some next) fun r hr hgreatest c hc => ?_
  obtain rfl := some_inj.1 hc
  rcases hr with hr | hr
  · rcases hok with hnone | hagrees
    · rw [hnone] at hr
      cases hr
    · obtain ⟨c, hc, hsame⟩ := (any_eq_true _ _).1 hagrees
      rw [Bool.and_eq_true, beq_iff_eq, beq_iff_eq] at hsame
      have hshows := h.converged r hr (fun q hq => hgreatest q (.inl hq)) c hc
      exact ⟨hsame.1 ▸ hshows.displayName, hsame.2 ▸ hshows.avatarFileHash⟩
  · cases hr

include hdistinct in
theorem Inv.turn (h : Inv updates s) (nowMs : Int) (ok : Bool)
    (hok : s.Ordered updates (.turn k nowMs ok)) : Inv updates (s.turn k nowMs ok) := by
  rw [ContactRow.turn]
  cases hk : s.calls[k]? with
  | none => exact h
  | some call =>
    obtain ⟨profile, phase⟩ := call
    have hprepared := h.prepared _ (mem_of_getElem? hk)
    have hfailed : ∀ phase, phase ≠ .done → s.calls[k]? = some ⟨profile, phase⟩ →
        Inv updates (s.setPhase k ⟨profile, phase⟩ .failed) := by
      intro phase hopen hk
      refine h.goesOn hk hopen (by simp) ?_
      cases profile with
      | none => trivial
      | some p => trivial
    cases ok with
    | false =>
      cases phase with
      | done => exact h
      | failed => exact h
      | reading => exact hfailed _ (by simp) hk
      | upserting patch => exact hfailed _ (by simp) hk
      | writing next => exact hfailed _ (by simp) hk
      | deleting => exact hfailed _ (by simp) hk
    | true =>
      have hcall := hok rfl _ hk
      cases phase with
      | done => exact h
      | failed => exact h
      | reading =>
        cases profile with
        | none =>
          refine h.done hk (by simp) s.contact fun r hr hgreatest => ?_
          have hold : r ∈ s.delivered := hr.resolve_right (by simp)
          exact h.converged r hold fun q hq => hgreatest q (.inl hq)
        | some p => exact h.profileRead hdistinct nowMs hk hcall
      | upserting patch =>
        refine h.goesOn hk (by simp) ?_ (prepared_upsertRead nowMs s.contact hprepared)
        rw [upsertRead]
        split <;> simp
      | writing next =>
        cases profile with
        | none => exact h.localWritten hk hcall
        | some p => exact h.profileWritten hk hcall
      | deleting => exact h.done hk (by simp) none fun _ _ _ c hc => (nomatch hc)

/-- A call that starts was not delivered. -/
theorem Inv.begin (h : Inv updates s) (call : RowCall) (hopen : call.phase ≠ .done)
    (hknown : ∀ p ∈ call.profile, p ∈ updates) (hprepared : Prepared call) :
    Inv updates { s with calls := s.calls ++ [call] } := by
  have hsame : delivered { s with calls := s.calls ++ [call] } = s.delivered := by
    rw [delivered, filterMap_append, filterMap_cons, RowCall.delivered, if_neg hopen]
    exact append_nil _
  refine ⟨?_, fun c hc p hp => ?_, fun c hc => ?_⟩
  · rw [Converged, hsame]
    exact h.converged
  · rcases mem_append hc with hold | hnew
    · exact h.known c hold p hp
    · exact hknown p (hnew ▸ hp)
  · rcases mem_append hc with hold | hnew
    · exact h.prepared c hold
    · rw [hnew]
      exact hprepared

include hdistinct in
theorem Inv.step (h : Inv updates s) {e : Event} (hok : s.Ordered updates e) :
    Inv updates (s.step e) := by
  cases e with
  | deliver p =>
    refine h.begin _ (by simp) (fun q hq => ?_) trivial
    obtain rfl := some_inj.1 hq
    exact hok
  | upsert patch => exact h.begin _ (by simp) (fun _ hq => (nomatch hq)) trivial
  | delete => exact h.begin _ (by simp) (fun _ hq => (nomatch hq)) trivial
  | turn k nowMs ok => exact h.turn hdistinct nowMs ok hok

/-- **Profiles converge** where the row orders the updates as their own times do, and no write undoes
an update: once they are delivered, in whatever order and however often, the row shows the
latest. -/
theorem run_converges (c : ChatContact) (updates : List Profile)
    (hdistinct : ∀ p ∈ updates, ∀ q ∈ updates, p.updatedAtMs = q.updatedAtMs → p = q)
    (es : List Event) (h : Runs.Meets step (Ordered updates) (start c) es) (n : Nat) :
    Converged (after c (es.take n)) := by
  have hkeeps : ∀ s e, Inv updates s → s.Ordered updates e → Inv updates (s.step e) :=
    fun _ _ hs he => hs.step hdistinct he
  exact throughout step (P := Converged) (fun es hm =>
    (invariant step hkeeps es (start c) (inv_start updates c) hm).converged) es h n

/-- A contact without a name, and two updates of it. -/
def nameless : ChatContact := ⟨none, "", .active, 0, 0, none⟩

def first : Profile := ⟨"Ann", "a1", 100⟩

def second : Profile := ⟨"Anna", "a2", 200⟩

theorem first_second_distinct : ∀ p ∈ [first, second], ∀ q ∈ [first, second],
    p.updatedAtMs = q.updatedAtMs → p = q := by decide

/-- The first update, a block, the second update, and the first once more. -/
def inOrder : List Event :=
  .deliver first :: handled 0 150 ++ .upsert ⟨some .blocked, none, none, none⟩ :: handled 1 160 ++
    .deliver second :: handled 2 210 ++ .deliver first :: handled 3 220

theorem run_converges_inOrder : Converged (after nameless (inOrder.take 99)) :=
  run_converges nameless [first, second] first_second_distinct inOrder (by decide) 99

/-- The second update was made before the block and comes in after it: the row keeps the name of the
first. -/
theorem passedOver_after_block : ¬ ∀ (c : ChatContact) (updates : List Profile),
    (∀ p ∈ updates, ∀ q ∈ updates, p.updatedAtMs = q.updatedAtMs → p = q) →
      ∀ es : List Event, (∀ e ∈ es, ∀ p, e = .deliver p → p ∈ updates) →
        Converged (after c es) := by
  intro h
  have hshows := h nameless [first, second] first_second_distinct
    (.deliver first :: handled 0 150 ++ .upsert ⟨some .blocked, none, none, none⟩ ::
      handled 1 300 ++ .deliver second :: handled 2 310)
    (by
      intro e he p hp
      subst hp
      simp [handled] at he
      rcases he with rfl | rfl <;> simp)
    second (by decide) (by decide) ⟨some "Ann", "a1", .blocked, 0, 300, some 150⟩ (by decide)
  exact absurd hshows.displayName (by decide)

end ContactRow

end RezChat.Contacts
