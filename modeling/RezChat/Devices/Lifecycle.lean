/-
The lifecycle of an activation.

Three things are wanted of it, in every run, however the calls are interleaved and wherever
the process dies: the record only moves forward in the declared order of its stages, only a
completion of its own activation makes it ready, and the device publishes its bundle only
after the record was ready, or after it saw that the network serves the bundle already.

The last two hold of every run (`run_accounted`). The first rests on the copy of the record in
memory, which lags behind while a write is pending: a call that looks at the copy in the
meantime writes over what it has not seen (`active_thenReady`). So it holds of the runs in
which no write of the journal is begun while another access is pending, and none fails after
it has taken effect (`run_activationSafe`).
-/
import RezChat.Devices.Activation

set_option autoImplicit false

namespace RezChat.Devices

open Inbox (trim)
open List Option RezChat.Task Device ActivationEntry Journal Safe

/-! ## The laws -/

/-- A record is followed by one of the same activation that is not behind it. -/
def ActivationRecord.Precedes (r r' : ActivationRecord) : Prop :=
  r.activationId = r'.activationId ∧ r.stage.rank ≤ r'.stage.rank

/-- The bundle may be published: the record was ready, or the network was seen to serve it. -/
def Cleared (entries : List ActivationEntry) : Prop :=
  (∃ r, .wrote r ∈ entries ∧ r.stage = .ready) ∨ .observed ∈ entries

/-- A record is not behind any that was written for its activation. -/
def MovesForward : ActivationEntry → List ActivationEntry → Prop
  | .wrote r, past => ∀ r', .wrote r' ∈ past → r'.activationId = r.activationId →
      r'.stage.rank ≤ r.stage.rank
  | _, _ => True

/-- A record becomes ready by a completion of its own activation that came when everything up
to its horizon had been seen. -/
def CompletedByItsOwn : ActivationEntry → List ActivationEntry → Prop
  | .wrote r, past => r.stage = .ready → ∃ c, .completed c ∈ past ∧
      c.activationId = r.activationId ∧ c.originDeviceId = r.baselineOrigin ∧
      c.horizonLamport = some r.horizonLamport ∧ r.horizonLamport ≤ c.seenBeforeLamport
  | _, _ => True

/-- What is published may be. -/
def PublishedWhenCleared : ActivationEntry → List ActivationEntry → Prop
  | .published, past => Cleared past
  | _, _ => True

/-- The device was delegated. -/
def Identity.Delegated (me : Identity) : Prop := activationIdFromIdentity me ≠ ""

/-- What is wanted of the entries of a device. -/
structure ActivationSafe (me : Identity) (entries : List ActivationEntry) : Prop where
  forward : Throughout MovesForward entries
  completed : Throughout CompletedByItsOwn entries
  published : me.Delegated → Throughout PublishedWhenCleared entries

/-! ## The discipline -/

theorem Cleared.mono {entries entries' : List ActivationEntry} (h : Cleared entries)
    (hsub : entries <:+ entries') : Cleared entries' := by
  rcases h with ⟨r, hr, hready⟩ | hobserved
  · exact .inl ⟨r, hsub.subset hr, hready⟩
  · exact .inr (hsub.subset hobserved)

/-- What holds of a device whose accesses to the journal were never disturbed. -/
structure Tidy (d : Device) : Prop where
  idle : d.hydrated = false → d.writer = none
  alone : d.writer ≠ none → d.readers = []
  synced : d.hydrated = true → d.writer = none → d.record = d.stored
  latest : ∀ r, .wrote r ∈ d.entries → ∃ r', d.stored = some r' ∧ r.Precedes r'
  forward : Throughout MovesForward d.entries

/-- What always holds of a device. -/
structure Sound (me : Identity) (d : Device) : Prop where
  recorded : ∀ r, d.record = some r → .wrote r ∈ d.entries
  stored : ∀ r, d.stored = some r → .wrote r ∈ d.entries
  named : ∀ r, .wrote r ∈ d.entries → r.stage = .bootstrapping → r.activationId ≠ ""
  cleared : ∀ r, .wrote r ∈ d.entries → r.stage ≠ .bootstrapping → Cleared d.entries
  completed : Throughout CompletedByItsOwn d.entries
  published : me.Delegated → Throughout PublishedWhenCleared d.entries
  tidy : d.disturbed = false → Tidy d

/-- What a call relies on while it waits: entries stay, the copy in memory is not lost, and
nobody comes between it and the journal, unless the device is disturbed. -/
structure Undone (i : Nat) (d d' : Device) : Prop where
  entries : d.entries <:+ d'.entries
  hydrated : d.hydrated = true → d'.hydrated = true
  disturbed : d.disturbed = true → d'.disturbed = true
  writing : d'.disturbed = false → d.writer = some i →
    d'.writer = some i ∧ d'.stored = d.stored ∧ d'.record = d.record
  reading : d'.disturbed = false → i ∈ d.readers → i ∈ d'.readers ∧ d'.stored = d.stored

theorem Undone.refl (i : Nat) (d : Device) : Undone i d d :=
  ⟨suffix_refl _, id, id, fun _ h => ⟨h, rfl, rfl⟩, fun _ h => ⟨h, rfl⟩⟩

theorem Undone.trans {i : Nat} {d d' d'' : Device} (h : Undone i d d') (h' : Undone i d' d'') :
    Undone i d d'' where
  entries := h.entries.trans h'.entries
  hydrated hd := h'.hydrated (h.hydrated hd)
  disturbed hd := h'.disturbed (h.disturbed hd)
  writing hquiet hd := by
    have hquiet' : d'.disturbed = false :=
      Bool.eq_false_of_not_eq_true fun hd' => absurd (h'.disturbed hd') (by rw [hquiet]; decide)
    obtain ⟨hw, hs, hr⟩ := h.writing hquiet' hd
    obtain ⟨hw', hs', hr'⟩ := h'.writing hquiet hw
    exact ⟨hw', hs'.trans hs, hr'.trans hr⟩
  reading hquiet hd := by
    have hquiet' : d'.disturbed = false :=
      Bool.eq_false_of_not_eq_true fun hd' => absurd (h'.disturbed hd') (by rw [hquiet]; decide)
    obtain ⟨hw, hs⟩ := h.reading hquiet' hd
    obtain ⟨hw', hs'⟩ := h'.reading hquiet hw
    exact ⟨hw', hs'.trans hs⟩

/-- The discipline of the calls of the service. -/
def discipline (me : Identity) : Discipline Device where
  inv := Sound me
  rely := Undone
  refl := Undone.refl
  trans := Undone.trans

section Calls

variable {me : Identity} {i : Nat} {d₀ d : Device} {α : Type}

/-- The segment so far is settled. -/
abbrev Settled (me : Identity) (i : Nat) : Device → Device → Prop := (discipline me).Settled i

/-- The call `i` is safe, and returns with `R`. -/
abbrev SafeCall (me : Identity) (i : Nat) (R : α → Device → Prop) (t : Task Device α)
    (d₀ d : Device) : Prop :=
  Safe (discipline me) i (fun a d₀ d => Settled me i d₀ d ∧ R a d) (Settled me i) t d₀ d

/-- A fact that a call may rely on. -/
def Stable (K : Device → Prop) : Prop := ∀ i d d', Undone i d d' → K d → K d'

/-- A step that touches neither the journal nor what is kept of it. -/
theorem settled_of_same (h : Settled me i d₀ d) {d' : Device} (hentries : d'.entries = d.entries)
    (hstored : d'.stored = d.stored) (hrecord : d'.record = d.record)
    (hhydrated : d'.hydrated = d.hydrated) (hreaders : d'.readers = d.readers)
    (hwriter : d'.writer = d.writer) (hdisturbed : d'.disturbed = d.disturbed) :
    Settled me i d₀ d' := by
  refine ⟨⟨?_, ?_, ?_, ?_, ?_, ?_, ?_⟩, fun j hj => Undone.trans (h.2 j hj) ⟨?_, ?_, ?_, ?_, ?_⟩⟩
  · rw [hrecord, hentries]; exact h.1.recorded
  · rw [hstored, hentries]; exact h.1.stored
  · rw [hentries]; exact h.1.named
  · rw [hentries]; exact h.1.cleared
  · rw [hentries]; exact h.1.completed
  · rw [hentries]; exact h.1.published
  · intro hquiet
    have htidy := h.1.tidy (hdisturbed.symm.trans hquiet)
    refine ⟨?_, ?_, ?_, ?_, ?_⟩
    · rw [hhydrated, hwriter]; exact htidy.idle
    · rw [hwriter, hreaders]; exact htidy.alone
    · rw [hhydrated, hwriter, hrecord, hstored]; exact htidy.synced
    · rw [hentries, hstored]; exact htidy.latest
    · rw [hentries]; exact htidy.forward
  · rw [hentries]
  · rw [hhydrated]; exact id
  · rw [hdisturbed]; exact id
  · intro _ hw
    exact ⟨hwriter.trans hw, hstored, hrecord⟩
  · intro _ hr
    exact ⟨by rw [hreaders]; exact hr, hstored⟩

/-! ### Waiting -/

theorem settled_refl (h : Sound me d) : Settled me i d d := Discipline.settled_refl h

/-- A call that is awaited returns with facts it may rely on. -/
theorem safe_awaited {t : Task Device α} {K : α → Device → Prop} (hK : ∀ a, Stable (K a))
    (ht : SafeCall me i K t d₀ d) : SafeCall me i K (awaited t) d₀ d := by
  refine safe_bind (mono ?_ (fun _ _ h => h) ht)
  rintro a d₁ d₂ ⟨hset, hKa⟩
  exact ⟨hset, fun d' hd' hrely => ⟨settled_refl hd', hK a i d₂ d' hrely hKa⟩⟩

/-- An operation of the outside that touches nothing. -/
theorem safe_await {f : Device → α × Device} {R : α → Device → Prop} (h : Settled me i d₀ d)
    (hf : ∀ d', Sound me d' → Undone i d d' → Settled me i d' (f d').2 ∧
      ∀ d'', Sound me d'' → Undone i (f d').2 d'' → R (f d').1 d'') :
    SafeCall me i R (await f) d₀ d := by
  refine ⟨h, fun r d' hd' hrely => ?_⟩
  cases r with
  | ok =>
    obtain ⟨hset, hR⟩ := hf d' hd' hrely
    exact ⟨hset, fun d'' hd'' hrely' => ⟨settled_refl hd'', hR d'' hd'' hrely'⟩⟩
  | throws => exact ⟨settled_refl hd', fun d'' hd'' _ => settled_refl hd''⟩
  | throwsLate => exact ⟨(hf d' hd' hrely).1, fun d'' hd'' _ => settled_refl hd''⟩

/-! ### Accesses to the journal -/

/-- A record that says which activation it is of, and that became ready by a completion of its
own. -/
structure Justified (r : ActivationRecord) (d : Device) : Prop where
  named : r.stage = .bootstrapping → r.activationId ≠ ""
  cleared : r.stage = .active → Cleared d.entries
  completed : CompletedByItsOwn (.wrote r) d.entries

/-- What may be written: such a record that is not behind the copy in memory either. -/
structure Writable (r : ActivationRecord) (d : Device) : Prop extends Justified r d where
  hydrated : d.hydrated = true
  follows : ∀ r', d.record = some r' → r'.Precedes r

theorem ActivationRecord.Precedes.trans {r r' r'' : ActivationRecord} (h : r.Precedes r')
    (h' : r'.Precedes r'') : r.Precedes r'' :=
  ⟨h.1.trans h'.1, le_trans h.2 h'.2⟩

variable {r : ActivationRecord}

/-- More entries leave a record as justified as it was. -/
theorem CompletedByItsOwn.mono {past past' : List ActivationEntry}
    (h : CompletedByItsOwn (.wrote r) past) (hsub : past <:+ past') :
    CompletedByItsOwn (.wrote r) past' := by
  intro hready
  obtain ⟨c, hc, hrest⟩ := h hready
  exact ⟨c, hsub.subset hc, hrest⟩

theorem stable_justified (r : ActivationRecord) : Stable (Justified r) := fun _ _ _ h hr =>
  ⟨hr.named, fun hstage => (hr.cleared hstage).mono h.entries, hr.completed.mono h.entries⟩

/-- One entry more that the laws allow, and nothing else. -/
theorem settled_note {e : ActivationEntry} (h : Settled me i d₀ d)
    (hwrote : ∀ r, e ≠ .wrote r) (hpublished : e = .published → me.Delegated → Cleared d.entries) :
    Settled me i d₀ (d.note e) := by
  have hsub : d.entries <:+ (d.note e).entries := suffix_cons e d.entries
  have hold (r : ActivationRecord) (hr : .wrote r ∈ (d.note e).entries) : .wrote r ∈ d.entries := by
    rcases mem_cons.1 hr with hr | hr
    · exact absurd hr.symm (hwrote r)
    · exact hr
  refine ⟨⟨?_, ?_, ?_, ?_, ?_, ?_, ?_⟩, fun j hj => Undone.trans (h.2 j hj)
    ⟨hsub, id, id, fun _ hw => ⟨hw, rfl, rfl⟩, fun _ hr => ⟨hr, rfl⟩⟩⟩
  · exact fun r hr => hsub.subset (h.1.recorded r hr)
  · exact fun r hr => hsub.subset (h.1.stored r hr)
  · exact fun r hr => h.1.named r (hold r hr)
  · exact fun r hr hstage => (h.1.cleared r (hold r hr) hstage).mono hsub
  · refine ⟨?_, h.1.completed⟩
    cases e with
    | wrote r => exact absurd rfl (hwrote r)
    | _ => trivial
  · intro hdelegated
    refine ⟨?_, h.1.published hdelegated⟩
    cases e with
    | published => exact hpublished rfl hdelegated
    | _ => trivial
  · intro hquiet
    have htidy := h.1.tidy hquiet
    refine ⟨htidy.idle, htidy.alone, htidy.synced, fun r hr => htidy.latest r (hold r hr), ?_⟩
    refine ⟨?_, htidy.forward⟩
    cases e with
    | wrote r => exact absurd rfl (hwrote r)
    | _ => trivial

/-- The journal holds a new record. -/
theorem sound_store (h : Sound me d) (hr : Justified r d)
    (htidy : d.disturbed = false → Tidy (d.store r)) : Sound me (d.store r) := by
  have hsub : d.entries <:+ (d.store r).entries := suffix_cons _ _
  refine ⟨?_, ?_, ?_, ?_, ?_, ?_, htidy⟩
  · exact fun r' hr' => hsub.subset (h.recorded r' hr')
  · intro r' hr'
    rw [← some_inj.1 hr']
    exact mem_cons_self
  · intro r' hr' hstage
    rcases mem_cons.1 hr' with heq | hold
    · rw [wrote.inj heq] at hstage ⊢
      exact hr.named hstage
    · exact h.named r' hold hstage
  · intro r' hr' hstage
    rcases mem_cons.1 hr' with heq | hold
    · rw [wrote.inj heq] at hstage
      cases hr' : r.stage with
      | bootstrapping => exact absurd hr' hstage
      | ready => exact .inl ⟨r, mem_cons_self, hr'⟩
      | active => exact (hr.cleared hr').mono hsub
    · exact (h.cleared r' hold hstage).mono hsub
  · exact ⟨hr.completed, h.completed⟩
  · exact fun hdelegated => ⟨trivial, h.published hdelegated⟩

/-- A write of the journal begins. -/
theorem settled_beginWrite (h : Settled me i d₀ d) (hhydrated : d.hydrated = true) :
    Settled me i d₀ (d.beginWrite i) := by
  have hquiet (hd : (d.beginWrite i).disturbed = false) :
      d.disturbed = false ∧ d.writer = none ∧ d.readers = [] := by
    simpa [beginWrite, and_assoc] using hd
  refine ⟨⟨h.1.recorded, h.1.stored, h.1.named, h.1.cleared, h.1.completed, h.1.published, ?_⟩,
    fun j hj => Undone.trans (h.2 j hj) ⟨suffix_refl _, id, ?_, ?_, ?_⟩⟩
  · intro hd
    obtain ⟨hundisturbed, -, hreaders⟩ := hquiet hd
    have htidy := h.1.tidy hundisturbed
    refine ⟨fun hnot => ?_, fun _ => hreaders, fun _ hw => ?_, htidy.latest, htidy.forward⟩
    · exact absurd (hhydrated.symm.trans hnot) (by simp)
    · exact absurd hw (by simp [beginWrite])
  · intro hd
    simp [beginWrite, hd]
  · intro hd hw
    rw [(hquiet hd).2.1] at hw
    exact absurd hw (by simp)
  · intro hd hr
    rw [(hquiet hd).2.2] at hr
    exact absurd hr not_mem_nil

/-- Between the beginning of a write and its end, unless the device is disturbed, the writer
is alone with the journal. -/
structure Writing (i : Nat) (stored record : Option ActivationRecord) (d : Device) : Prop where
  writer : d.disturbed = false → d.writer = some i
  stored : d.disturbed = false → d.stored = stored
  record : d.disturbed = false → d.record = record

variable {stored record : Option ActivationRecord}

theorem Writing.rely {d' : Device}
    (h : Writing i stored record d) (hrely : Undone i d d') : Writing i stored record d' := by
  have hquiet (hd' : d'.disturbed = false) : d.disturbed = false := by
    by_contra hd
    exact absurd ((hrely.disturbed (eq_true_of_ne_false hd)).symm.trans hd') (by simp)
  refine ⟨fun hd' => ?_, fun hd' => ?_, fun hd' => ?_⟩
  · exact (hrely.writing hd' (h.writer (hquiet hd'))).1
  · rw [(hrely.writing hd' (h.writer (hquiet hd'))).2.1]
    exact h.stored (hquiet hd')
  · rw [(hrely.writing hd' (h.writer (hquiet hd'))).2.2]
    exact h.record (hquiet hd')

/-- A write takes effect. -/
theorem settled_store
    (h : Sound me d) (hw : Writing i stored record d) (hr : Justified r d)
    (hfollows : d.disturbed = false → ∀ r', stored = some r' → r'.Precedes r) :
    Settled me i d (d.store r) := by
  have hsub : d.entries <:+ (d.store r).entries := suffix_cons _ _
  refine ⟨sound_store h hr fun hquiet => ?_, fun j hj => ⟨hsub, id, id, fun hquiet hwriter => ?_,
    fun hquiet hreader => ?_⟩⟩
  · have hquiet' : d.disturbed = false := hquiet
    have htidy := h.tidy hquiet'
    -- every record written so far precedes the one that was stored, and that one this one
    have hprecedes (r' : ActivationRecord) (hr' : .wrote r' ∈ d.entries) : r'.Precedes r := by
      obtain ⟨r'', hr'', hprec⟩ := htidy.latest r' hr'
      rw [hw.stored hquiet'] at hr''
      exact hprec.trans (hfollows hquiet' r'' hr'')
    refine ⟨htidy.idle, htidy.alone, fun _ hwriter => ?_, fun r' hr' => ⟨r, rfl, ?_⟩, ?_⟩
    · exact absurd ((hw.writer hquiet').symm.trans hwriter) (by simp)
    · rcases mem_cons.1 hr' with heq | hold
      · rw [wrote.inj heq]
        exact ⟨rfl, le_refl _⟩
      · exact hprecedes r' hold
    · exact ⟨fun r' hr' _ => (hprecedes r' hr').2, htidy.forward⟩
  · have hwriter' : d.writer = some j := hwriter
    rw [hw.writer hquiet] at hwriter'
    exact absurd (some_inj.1 hwriter').symm hj
  · have halone := (h.tidy hquiet).alone (by rw [hw.writer hquiet]; exact some_ne_none i)
    rw [halone] at hreader
    exact absurd hreader not_mem_nil

/-- The writer leaves the journal: the copy in memory is what is stored. -/
theorem settled_leave {d' : Device}
    (h : Sound me d) (hw : Writing i stored record d)
    (hentries : d'.entries = d.entries) (hstored : d'.stored = d.stored)
    (hhydrated : d'.hydrated = d.hydrated) (hreaders : d'.readers = d.readers)
    (hdisturbed : d'.disturbed = d.disturbed) (hwriter : d'.writer = none)
    (hrecord : ∀ r, d'.record = some r → .wrote r ∈ d.entries)
    (hsynced : d.disturbed = false → d'.record = d.stored) : Settled me i d d' := by
  refine ⟨⟨?_, ?_, ?_, ?_, ?_, ?_, ?_⟩, fun j hj => ⟨?_, ?_, ?_, ?_, ?_⟩⟩
  · rw [hentries]; exact hrecord
  · rw [hstored, hentries]; exact h.stored
  · rw [hentries]; exact h.named
  · rw [hentries]; exact h.cleared
  · rw [hentries]; exact h.completed
  · rw [hentries]; exact h.published
  · intro hquiet
    have hquiet' := hdisturbed.symm.trans hquiet
    have htidy := h.tidy hquiet'
    refine ⟨fun _ => hwriter, fun hw => absurd hwriter hw, fun _ _ => ?_, ?_, ?_⟩
    · rw [hstored]; exact hsynced hquiet'
    · rw [hentries, hstored]; exact htidy.latest
    · rw [hentries]; exact htidy.forward
  · rw [hentries]
  · rw [hhydrated]; exact id
  · rw [hdisturbed]; exact id
  · intro hquiet hwriter'
    rw [hw.writer (hdisturbed.symm.trans hquiet)] at hwriter'
    exact absurd (some_inj.1 hwriter').symm hj
  · intro _ hreader
    exact ⟨by rw [hreaders]; exact hreader, hstored⟩

/-- A write fails after it took effect. -/
theorem settled_lateWrite (h : Sound me d) (hr : Justified r d) :
    Settled me i d (d.lateWrite r) := by
  have hsound : Sound me (d.store r) → Sound me (d.lateWrite r) := fun hs =>
    ⟨hs.recorded, hs.stored, hs.named, hs.cleared, hs.completed, hs.published,
      fun hquiet => absurd hquiet (by simp [lateWrite])⟩
  have hsub : d.entries <:+ (d.lateWrite r).entries := suffix_cons _ _
  refine ⟨?_, fun j _ => ⟨hsub, id, fun _ => rfl, fun hquiet => ?_, fun hquiet => ?_⟩⟩
  · have hlate : Sound me { d.store r with disturbed := true } := by
      have hdisturbed : Sound me { d with disturbed := true } :=
        ⟨h.recorded, h.stored, h.named, h.cleared, h.completed, h.published,
          fun hquiet => absurd hquiet (by simp)⟩
      exact sound_store (d := { d with disturbed := true }) hdisturbed
        ⟨hr.named, hr.cleared, hr.completed⟩ fun hquiet => absurd hquiet (by simp)
    exact ⟨hlate.recorded, hlate.stored, hlate.named, hlate.cleared, hlate.completed,
      hlate.published, fun hquiet => absurd hquiet (by simp [lateWrite])⟩
  · exact absurd hquiet (by simp [lateWrite])
  · exact absurd hquiet (by simp [lateWrite])

/-- **`#persist`** writes a record that may be written. -/
theorem safe_persist (h : Settled me i d₀ d) (hr : Writable r d) :
    SafeCall me i (fun _ d' => .wrote r ∈ d'.entries ∧ d'.hydrated = true) (persist i r) d₀ d := by
  refine ⟨settled_beginWrite h hr.hydrated, fun response d₁ hd₁ hrely => ?_⟩
  have hbegun : Writing i d.stored d.record (d.beginWrite i) :=
    ⟨fun _ => rfl, fun _ => rfl, fun _ => rfl⟩
  have hw := hbegun.rely hrely
  have hjustified : Justified r d₁ := stable_justified r i _ d₁ hrely
    ⟨hr.named, hr.cleared, hr.completed⟩
  have hhydrated : d₁.hydrated = true := hrely.hydrated hr.hydrated
  -- what was stored is what the copy in memory says, if nobody disturbed it
  have hsynced (hquiet : d₁.disturbed = false) : d.record = d.stored := by
    have hundisturbed : (d.beginWrite i).disturbed = false := by
      by_contra hd
      exact absurd ((hrely.disturbed (eq_true_of_ne_false hd)).symm.trans hquiet) (by simp)
    have hparts : d.disturbed = false ∧ d.writer = none ∧ d.readers = [] := by
      simpa [beginWrite, and_assoc] using hundisturbed
    exact (h.1.tidy hparts.1).synced hr.hydrated hparts.2.1
  cases response with
  | ok =>
    have hfollows (hquiet : d₁.disturbed = false) (r' : ActivationRecord)
        (hr' : d.stored = some r') : r'.Precedes r := by
      rw [← hsynced hquiet] at hr'
      exact hr.follows r' hr'
    refine ⟨settled_store hd₁ hw hjustified hfollows, fun d₂ hd₂ hrely₂ => ?_⟩
    have hstored : Writing i (some r) d.record (d₁.store r) :=
      ⟨hw.writer, fun _ => rfl, hw.record⟩
    have hw₂ := hstored.rely hrely₂
    have hwrote : .wrote r ∈ d₂.entries := hrely₂.entries.subset mem_cons_self
    refine ⟨settled_leave hd₂ hw₂ rfl rfl rfl rfl rfl rfl (fun r' hr' => ?_) (fun hquiet => ?_),
      hwrote, hrely₂.hydrated hhydrated⟩
    · rw [← some_inj.1 hr']
      exact hwrote
    · exact (hw₂.stored hquiet).symm
  | throws =>
    refine ⟨settled_leave hd₁ hw rfl rfl rfl rfl rfl rfl hd₁.recorded (fun hquiet => ?_),
      fun d₂ hd₂ _ => settled_refl hd₂⟩
    have hrecord : d₁.record = d.record := hw.record hquiet
    exact hrecord.trans ((hsynced hquiet).trans (hw.stored hquiet).symm)
  | throwsLate =>
    exact ⟨settled_lateWrite hd₁ hjustified, fun d₂ hd₂ _ => settled_refl hd₂⟩

/-- A read that fails. -/
theorem safe_endRead {R : Unit → Device → Prop} (h : Sound me d) :
    SafeCall me i R (act (endRead i) fun _ => pause failed) d d := by
  have hset : Settled me i d (d.endRead i) := by
    refine ⟨⟨h.recorded, h.stored, h.named, h.cleared, h.completed, h.published,
      fun hquiet => ?_⟩, fun j hj => ⟨suffix_refl _, id, id, fun _ hw => ⟨hw, rfl, rfl⟩,
        fun _ hr => ⟨mem_filter.2 ⟨hr, decide_eq_true hj⟩, rfl⟩⟩⟩
    have htidy := h.tidy hquiet
    refine ⟨htidy.idle, fun hw => ?_, htidy.synced, htidy.latest, htidy.forward⟩
    show d.readers.filter _ = []
    rw [htidy.alone hw]
    rfl
  exact ⟨hset, fun d' hd' _ => settled_refl hd'⟩

section

variable (h : Settled me i d₀ d)
include h

/-- **`hydrate`** reads the record, once. -/
theorem safe_hydrate :
    SafeCall me i (fun _ d' => d'.hydrated = true) (hydrate i) d₀ d := by
  show Safe _ _ _ _ (if d.hydrated = true then _ else _) _ _
  by_cases hhydrated : d.hydrated = true
  · rw [if_pos hhydrated]
    exact ⟨h, fun d' hd' hrely => ⟨settled_refl hd', hrely.hydrated hhydrated⟩⟩
  · rw [if_neg hhydrated]
    have hnot : d.hydrated = false := eq_false_of_ne_true hhydrated
    have hbegin : Settled me i d₀ (d.beginRead i) := by
      refine ⟨⟨h.1.recorded, h.1.stored, h.1.named, h.1.cleared, h.1.completed, h.1.published,
        fun hquiet => ?_⟩, fun j hj => Undone.trans (h.2 j hj)
          ⟨suffix_refl _, id, id, fun _ hw => ⟨hw, rfl, rfl⟩,
            fun _ hr => ⟨mem_cons_of_mem _ hr, rfl⟩⟩⟩
      have htidy := h.1.tidy hquiet
      exact ⟨htidy.idle, fun hw => absurd (htidy.idle hnot) hw, htidy.synced, htidy.latest,
        htidy.forward⟩
    refine ⟨hbegin, fun response d₁ hd₁ hrely => ?_⟩
    cases response with
    | ok =>
      refine ⟨settled_refl hd₁, fun d₂ hd₂ hrely₂ => ?_⟩
      -- the reader is among the readers still, so that nobody has written
      have hreads (hquiet : d₂.disturbed = false) :
          i ∈ d₂.readers ∧ d₂.stored = d₁.stored ∧ d₂.writer = none := by
        have hquiet₁ : d₁.disturbed = false := by
          by_contra hd
          exact absurd ((hrely₂.disturbed (eq_true_of_ne_false hd)).symm.trans hquiet) (by simp)
        obtain ⟨hmem, -⟩ := hrely.reading hquiet₁ mem_cons_self
        obtain ⟨hmem₂, hstored⟩ := hrely₂.reading hquiet hmem
        refine ⟨hmem₂, hstored, ?_⟩
        by_contra hw
        rw [(hd₂.tidy hquiet).alone hw] at hmem₂
        exact not_mem_nil hmem₂
      refine ⟨⟨⟨fun r hr => ?_, hd₂.stored, hd₂.named, hd₂.cleared, hd₂.completed, hd₂.published,
        fun hquiet => ?_⟩, fun j hj => ⟨suffix_refl _, fun _ => rfl, id, fun hquiet hw => ?_,
          fun hquiet hr => ⟨?_, rfl⟩⟩⟩, rfl⟩
      · exact hrely₂.entries.subset (hd₁.stored r hr)
      · have htidy := hd₂.tidy hquiet
        obtain ⟨-, hstored, hwriter⟩ := hreads hquiet
        exact ⟨fun hn => absurd hn (by simp [hydrateWith]), fun hw => absurd hwriter hw,
          fun _ _ => hstored.symm, htidy.latest, htidy.forward⟩
      · have hw' : d₂.writer = some j := hw
        rw [(hreads hquiet).2.2] at hw'
        exact absurd hw' (by simp)
      · exact mem_filter.2 ⟨hr, decide_eq_true hj⟩
    | throws => exact safe_endRead hd₁
    | throwsLate => exact safe_endRead hd₁

/-- **`ensureBootstrapping`** begins an activation, or goes on with it. -/
theorem safe_ensureBootstrapping {activationId : String}
    (hhydrated : d.hydrated = true) :
    SafeCall me i (fun _ d' => d'.hydrated = true) (ensureBootstrapping i activationId) d₀ d := by
  unfold ensureBootstrapping
  generalize trim activationId = trimmed
  show Safe _ _ _ _ (if trimmed = "" then failed else _) _ _
  by_cases hid : trimmed = ""
  · rw [if_pos hid]
    exact h
  · rw [if_neg hid]
    dsimp only [id]
    cases hrecord : d.record with
    | some r =>
      dsimp only
      by_cases hsame : r.activationId = trimmed
      · rw [if_pos hsame]
        exact ⟨h, hhydrated⟩
      · rw [if_neg hsame]
        exact h
    | none =>
      have hwritable : Writable ⟨trimmed, .bootstrapping, d.clock, "", 0⟩ d := by
        refine ⟨⟨fun _ => hid, fun hstage => ?_, fun hstage => ?_⟩, hhydrated, fun r hr => ?_⟩
        · exact absurd hstage (by simp)
        · exact absurd hstage (by simp)
        · rw [hrecord] at hr
          exact absurd hr (by simp)
      exact mono (fun _ _ _ hR => ⟨hR.1, hR.2.2⟩) (fun _ _ hE => hE)
        (safe_persist h hwritable)

/-- **`markReady`**, after a completion of the activation. -/
theorem safe_markReady {baselineOrigin : String} {horizonLamport : Int}
    (hhydrated : d.hydrated = true)
    (hcompleted : ∀ r, d.record = some r → ∃ c, .completed c ∈ d.entries ∧
      c.activationId = r.activationId ∧ c.originDeviceId = baselineOrigin ∧
      c.horizonLamport = some horizonLamport ∧ horizonLamport ≤ c.seenBeforeLamport) :
    SafeCall me i (fun _ d' => Cleared d'.entries ∧ d'.hydrated = true)
      (markReady i baselineOrigin horizonLamport) d₀ d := by
  refine safe_act ?_
  dsimp only [id]
  cases hrecord : d.record with
  | none => exact h
  | some r =>
    dsimp only
    by_cases hstage : r.stage = .bootstrapping
    · rw [if_pos hstage]
      have hwritable : Writable { r with
          stage := .ready
          baselineOrigin := baselineOrigin
          horizonLamport := horizonLamport } d := by
        refine ⟨⟨fun hb => ?_, fun ha => ?_, fun _ => hcompleted r hrecord⟩, hhydrated,
          fun r' hr' => ?_⟩
        · exact absurd hb (by simp)
        · exact absurd ha (by simp)
        · rw [hrecord, some_inj] at hr'
          rw [← hr']
          exact ⟨rfl, by rw [hstage]; exact Nat.zero_le _⟩
      refine mono (fun _ _ _ hR => ⟨hR.1, ?_, hR.2.2⟩) (fun _ _ hE => hE)
        (safe_persist h hwritable)
      exact .inl ⟨_, hR.2.1, rfl⟩
    · rw [if_neg hstage]
      exact h

/-- **`markActive`**, of a device that may publish. -/
theorem safe_markActive (hhydrated : d.hydrated = true)
    (hcleared : Cleared d.entries) :
    SafeCall me i (fun _ d' => Cleared d'.entries ∧ d'.hydrated = true) (markActive i) d₀ d := by
  refine safe_act ?_
  dsimp only [id]
  cases hrecord : d.record with
  | none =>
    have hwritable : Writable ⟨"", .active, d.clock, "", 0⟩ d := by
      refine ⟨⟨fun hb => absurd hb (by simp), fun _ => hcleared, fun hr => absurd hr (by simp)⟩,
        hhydrated, fun r hr => ?_⟩
      rw [hrecord] at hr
      exact absurd hr (by simp)
    exact mono (fun _ _ _ hR => ⟨hR.1, hR.1.1.cleared _ hR.2.1 (by simp), hR.2.2⟩)
      (fun _ _ hE => hE) (safe_persist h hwritable)
  | some r =>
    dsimp only
    by_cases hstage : r.stage = .active
    · rw [if_pos hstage]
      exact ⟨h, hcleared, hhydrated⟩
    · rw [if_neg hstage]
      have hwritable : Writable { r with stage := .active } d := by
        refine ⟨⟨fun hb => absurd hb (by simp), fun _ => hcleared, fun hr => absurd hr (by simp)⟩,
          hhydrated, fun r' hr' => ?_⟩
        rw [hrecord, some_inj] at hr'
        rw [← hr']
        refine ⟨rfl, ?_⟩
        cases r.stage with
        | bootstrapping => exact Nat.zero_le _
        | ready => exact Nat.le_succ 1
        | active => exact le_refl _
      exact mono (fun _ _ _ hR => ⟨hR.1, hR.1.1.cleared _ hR.2.1 (by simp), hR.2.2⟩)
        (fun _ _ hE => hE) (safe_persist h hwritable)

end

/-! ### The calls of the service -/

/-- A fact that lasts while entries are added. -/
def Lasting (K : Device → Prop) : Prop := ∀ d d', d.entries <:+ d'.entries →
  (d.hydrated = true → d'.hydrated = true) → K d → K d'

theorem Lasting.stable {K : Device → Prop} (hK : Lasting K) : Stable K :=
  fun _ d d' h hk => hK d d' h.entries h.hydrated hk

theorem lasting_hydrated : Lasting fun d => d.hydrated = true := fun _ _ _ hh hk => hh hk

theorem lasting_true : Lasting fun _ => True := fun _ _ _ _ _ => trivial

/-- The device may publish its bundle. -/
def Publishable (me : Identity) (d : Device) : Prop := me.Delegated → Cleared d.entries

theorem lasting_publishable (me : Identity) : Lasting (Publishable me) :=
  fun _ _ hsub _ hk hdelegated => (hk hdelegated).mono hsub

/-- A device that was completed, or observed, and has read its record. -/
def Committable (d : Device) : Prop := Cleared d.entries ∧ d.hydrated = true

theorem lasting_committable : Lasting Committable :=
  fun _ _ hsub hh hk => ⟨hk.1.mono hsub, hh hk.2⟩

variable {K : Device → Prop}

/-- A change that leaves the journal and the entries alone. -/
theorem settled_aside (h : Sound me d) (served committing : Bool) :
    Settled me i d { d with
      served := served
      committing := committing } :=
  settled_of_same (settled_refl h) rfl rfl rfl rfl rfl rfl rfl

theorem safe_republish (hK : Lasting K) (h : Settled me i d₀ d) (hk : K d) :
    SafeCall me i (fun _ => K) republishToAllPeers d₀ d := by
  refine safe_await h fun d' hd' hrely => ⟨settled_refl hd', fun d'' _ hrely' => ?_⟩
  exact hK.stable i d' d'' hrely' (hK.stable i d d' hrely hk)

/-- **`publishOwnBundle`**, of a device that may. -/
theorem safe_publishOwnBundle (hK : Lasting K) (h : Settled me i d₀ d) (hk : K d)
    (hpublishable : Publishable me d) :
    SafeCall me i (fun _ => K) publishOwnBundle d₀ d := by
  have hnoted : Settled me i d₀ (d.note .published) :=
    settled_note h (fun _ => by simp) fun _ => hpublishable
  have hk' : K (d.note .published) := hK d _ (suffix_cons _ _) id hk
  refine safe_bind (safe_modify (safe_await hnoted fun d' hd' hrely => ?_))
  refine ⟨settled_aside hd' true d'.committing, fun d'' _ hrely' => ?_⟩
  have hk'' : K { d' with served := true } :=
    hK d' _ (suffix_refl _) id (hK.stable i _ d' hrely hk')
  exact hK.stable i _ d'' hrely' hk''

/-- **`#commit`**, of a device that was completed. -/
theorem safe_commit (h : Settled me i d₀ d) (hcommittable : Committable d) :
    SafeCall me i (fun _ _ => True) (commit i) d₀ d := by
  show Safe _ _ _ _ (if d.committing = true then joinCommit else _) _ _
  by_cases hcommitting : d.committing = true
  · rw [if_pos hcommitting]
    refine ⟨h, fun response d' hd' _ => ?_⟩
    cases response with
    | ok => exact ⟨settled_refl hd', trivial⟩
    | throws => exact settled_refl hd'
    | throwsLate => exact settled_refl hd'
  · rw [if_neg hcommitting]
    have hbegun : Settled me i d₀ { d with committing := true } :=
      settled_of_same h rfl rfl rfl rfl rfl rfl rfl
    have hready : Committable { d with committing := true } := hcommittable
    refine safe_bind (safe_modify (safe_tryCatch ?_))
    -- whatever fails, the commit clears itself away
    refine mono (fun _ _ _ hR => hR) (fun d₁ d₂ hE => ?_) ?_
      (E := Settled me i) (R := fun _ d₁ d₂ => Settled me i d₁ d₂ ∧ True)
    · exact settled_of_same hE rfl rfl rfl rfl rfl rfl rfl
    · have hown : SafeCall me i (fun _ => Committable) publishOwnBundle d₀ _ :=
        safe_publishOwnBundle lasting_committable hbegun hready fun _ => hready.1
      refine safe_bind (hown.mono ?_ fun _ _ hE => hE)
      rintro _ d₁ d₂ ⟨hset, hpublished⟩
      have hall : SafeCall me i (fun _ => Committable) republishToAllPeers d₁ d₂ :=
        safe_republish lasting_committable hset hpublished
      refine safe_bind (hall.mono ?_ fun _ _ hE => hE)
      rintro _ d₃ d₄ ⟨hset', hrepublished⟩
      have hmarked : SafeCall me i (fun _ => Committable) (markActive i) d₃ d₄ :=
        safe_markActive hset' hrepublished.2 hrepublished.1
      have hactive := safe_awaited (fun _ => lasting_committable.stable) hmarked
      refine safe_bind (hactive.mono ?_ fun _ _ hE => hE)
      rintro _ d₅ d₆ ⟨hset'', -⟩
      exact ⟨settled_of_same hset'' rfl rfl rfl rfl rfl rfl rfl, trivial⟩

/-- Whether the device is served: then it was observed to be. -/
theorem safe_selfInSet (h : Settled me i d₀ d) (hhydrated : d.hydrated = true) :
    SafeCall me i (fun b d' => d'.hydrated = true ∧ (b = true → Cleared d'.entries))
      (selfInSet me) d₀ d := by
  rw [selfInSet]
  by_cases hid : me.ownDeviceId = ""
  · rw [if_pos hid]
    exact safe_pure ⟨h, hhydrated, fun hb => absurd hb (by simp)⟩
  · rw [if_neg hid]
    refine safe_await h fun d' hd' hrely => ?_
    have hhydrated' : d'.hydrated = true := hrely.hydrated hhydrated
    by_cases hserved : d'.served = true
    · rw [if_pos hserved]
      refine ⟨settled_note (settled_refl hd') (fun _ => by simp) (fun hp => absurd hp (by simp)),
        fun d'' _ hrely' => ⟨hrely'.hydrated hhydrated', fun _ => .inr ?_⟩⟩
      exact hrely'.entries.subset mem_cons_self
    · rw [if_neg hserved]
      refine ⟨settled_refl hd', fun d'' _ hrely' => ⟨hrely'.hydrated hhydrated', fun hb => ?_⟩⟩
      exact absurd hb hserved

/-- The gate lets a device publish that may. -/
def GateSound (me : Identity) (gate : Gate) (d : Device) : Prop :=
  gate.publish = true → Publishable me d

theorem lasting_gate (gate : Gate) : Lasting (GateSound me gate) :=
  fun d d' hsub hh hk hp => lasting_publishable me d d' hsub hh (hk hp)

section

variable (h : Settled me i d₀ d)
include h

theorem safe_resumeBootstrapping {activationId : String}
    (hhydrated : d.hydrated = true) (hid : activationId = "" → ¬ me.Delegated) :
    SafeCall me i (GateSound me) (resumeBootstrapping i activationId) d₀ d := by
  rw [resumeBootstrapping]
  by_cases hempty : activationId = ""
  · rw [if_pos hempty]
    exact safe_pure ⟨h, fun _ hdelegated => absurd hdelegated (hid hempty)⟩
  · rw [if_neg hempty]
    have hbegun : SafeCall me i (fun _ d' => d'.hydrated = true)
        (ensureBootstrapping i activationId) d₀ d := safe_ensureBootstrapping h hhydrated
    generalize ensureBootstrapping i activationId = begun at hbegun ⊢
    have hensured := safe_awaited (fun _ => lasting_hydrated.stable) hbegun
    refine safe_bind (hensured.mono ?_ fun _ _ hE => hE)
    rintro _ d₁ d₂ ⟨hset, -⟩
    have hasked : SafeCall me i (fun _ _ => True) (await fun d => ((), d)) d₁ d₂ :=
      safe_republish lasting_true hset trivial
    refine safe_bind (safe_tryCatch (hasked.mono ?_ ?_))
    · rintro _ d₃ d₄ ⟨hset', -⟩
      exact ⟨hset', fun hp => absurd hp (by simp)⟩
    · intro d₃ d₄ hset'
      exact ⟨hset', fun hp => absurd hp (by simp)⟩

/-- **`syncWithNetwork`** lets a device publish that may. -/
theorem safe_syncWithNetwork :
    SafeCall me i (GateSound me) (syncWithNetwork me i) d₀ d := by
  refine safe_bind ((safe_hydrate h).mono ?_ fun _ _ hE => hE)
  rintro _ d₁ d₂ ⟨hset, hhydrated⟩
  refine safe_bind ((safe_selfInSet hset hhydrated).mono ?_ fun _ _ hE => hE)
  rintro inSet d₃ d₄ ⟨hset', hhydrated', hobserved⟩
  cases inSet with
  | true =>
    have hactive : SafeCall me i (fun _ => Committable) (awaited (markActive i)) d₃ d₄ :=
      safe_awaited (fun _ => lasting_committable.stable)
        (safe_markActive hset' hhydrated' (hobserved rfl))
    refine safe_bind (hactive.mono ?_ fun _ _ hE => hE)
    rintro _ d₅ d₆ ⟨hset'', hcommittable⟩
    exact safe_pure ⟨hset'', fun _ _ => hcommittable.1⟩
  | false =>
    refine safe_act ?_
    dsimp only [id]
    cases hrecord : d₄.record with
    | none =>
      exact safe_resumeBootstrapping hset' hhydrated' fun hid hdelegated => hdelegated hid
    | some r =>
      have hwrote := hset'.1.recorded r hrecord
      dsimp only
      cases hstage : r.stage with
      | active =>
        exact safe_pure ⟨hset', fun _ _ => hset'.1.cleared r hwrote (by simp [hstage])⟩
      | ready =>
        have hcommitted : SafeCall me i (fun _ _ => True) (awaited (commit i)) d₃ d₄ :=
          safe_awaited (fun _ => lasting_true.stable)
            (safe_commit hset' ⟨hset'.1.cleared r hwrote (by simp [hstage]), hhydrated'⟩)
        refine safe_bind (hcommitted.mono ?_ fun _ _ hE => hE)
        rintro _ d₅ d₆ ⟨hset'', -⟩
        exact safe_pure ⟨hset'', fun hp => absurd hp (by simp)⟩
      | bootstrapping =>
        exact safe_resumeBootstrapping hset' hhydrated' fun hid =>
          absurd hid (hset'.1.named r hwrote hstage)

/-- **The connect path** publishes when the gate lets it. -/
theorem safe_connect :
    SafeCall me i (fun _ _ => True) (connect me i) d₀ d := by
  have hsynced : SafeCall me i (GateSound me) (awaited (syncWithNetwork me i)) d₀ d :=
    safe_awaited (fun gate => (lasting_gate gate).stable) (safe_syncWithNetwork h)
  refine safe_bind (hsynced.mono ?_ fun _ _ hE => hE)
  rintro gate d₁ d₂ ⟨hset, hgate⟩
  by_cases hpublish : gate.publish = true
  · rw [if_pos hpublish]
    have hpublished := safe_publishOwnBundle lasting_true hset trivial (hgate hpublish)
    refine safe_tryCatch (safe_bind (hpublished.mono ?_ ?_))
    · rintro _ d₃ d₄ ⟨hset', -⟩
      exact (safe_republish lasting_true hset' trivial).mono (fun _ _ _ hR => hR)
        fun _ _ hE => safe_pure ⟨hE, trivial⟩
    · exact fun _ _ hE => safe_pure ⟨hE, trivial⟩
  · rw [if_neg hpublish]
    exact safe_pure ⟨hset, trivial⟩

/-- **`onBaselineComplete`** makes a record ready that the marker completes. -/
theorem safe_onBaselineComplete {c : Completion} :
    SafeCall me i (fun _ _ => True) (onBaselineComplete i c) d₀ d := by
  refine safe_bind ((safe_hydrate h).mono ?_ fun _ _ hE => hE)
  rintro _ d₁ d₂ ⟨hset, hhydrated⟩
  have hnoted : Settled me i d₁ (d₂.note (.completed c)) :=
    settled_note hset (fun _ => by simp) (fun hp => absurd hp (by simp))
  have hhydrated' : (d₂.note (.completed c)).hydrated = true := hhydrated
  have hmem : .completed c ∈ (d₂.note (.completed c)).entries := mem_cons_self
  refine safe_bind (safe_modify ?_)
  generalize d₂.note (.completed c) = d₃ at hnoted hhydrated' hmem ⊢
  refine safe_act ?_
  dsimp only [id]
  cases hrecord : d₃.record with
  | none => exact safe_pure ⟨hnoted, trivial⟩
  | some r =>
    cases hhorizon : c.horizonLamport with
    | none => exact safe_pure ⟨hnoted, trivial⟩
    | some horizon =>
      dsimp only
      by_cases hcompletes : c.Completes r horizon
      · rw [if_pos hcompletes]
        obtain ⟨-, hid, -, hseen⟩ := hcompletes
        have hmarked : SafeCall me i (fun _ => Committable)
            (awaited (markReady i c.originDeviceId horizon)) d₁ d₃ := by
          refine safe_awaited (fun _ => lasting_committable.stable)
            (safe_markReady hnoted hhydrated' fun r' hr' => ?_)
          rw [hrecord, some_inj] at hr'
          rw [← hr']
          exact ⟨c, hmem, hid, rfl, hhorizon, hseen⟩
        refine safe_bind (hmarked.mono ?_ fun _ _ hE => hE)
        rintro _ d₄ d₅ ⟨hset', hcommittable⟩
        have hcommitted : SafeCall me i (fun _ _ => True) (awaited (commit i)) d₄ d₅ :=
          safe_awaited (fun _ => lasting_true.stable) (safe_commit hset' hcommittable)
        refine safe_bind (hcommitted.mono ?_ fun _ _ hE => hE)
        rintro _ d₆ d₇ ⟨hset'', -⟩
        exact safe_pure ⟨hset'', trivial⟩
      · rw [if_neg hcompletes]
        exact safe_pure ⟨hnoted, trivial⟩

end

end Calls

/-! ## Runs -/

section Run

variable {me : Identity}

theorem calm_entry (e : Entry) (i : Nat) (d : Device) (h : Sound me d) :
    Calm (discipline me) i (e.task me i) d d := by
  have hset := settled_refl (i := i) h
  cases e with
  | connect => exact (safe_connect hset).mono (fun _ _ _ hR => hR.1) fun _ _ hE => hE
  | sync =>
    exact safe_bind ((safe_syncWithNetwork hset).mono
      (fun _ _ _ hR => safe_pure hR.1) fun _ _ hE => hE)
  | baselineComplete c =>
    exact safe_bind ((safe_onBaselineComplete hset).mono
      (fun _ _ _ hR => safe_pure hR.1) fun _ _ hE => hE)

/-- What happens around the calls leaves the journal alone. -/
theorem allowed_act (a : Act) : (a.toStep me).Allowed (discipline me) := by
  cases a with
  | call e => exact fun i d h => calm_entry e i d h
  | resume i r => trivial
  | network served =>
    refine fun d h => ⟨⟨h.recorded, h.stored, h.named, h.cleared, h.completed, h.published,
      fun hquiet => ?_⟩, fun i => ⟨suffix_refl _, id, id, fun _ hw => ⟨hw, rfl, rfl⟩,
        fun _ hr => ⟨hr, rfl⟩⟩⟩
    have htidy := h.tidy hquiet
    exact ⟨htidy.idle, htidy.alone, htidy.synced, htidy.latest, htidy.forward⟩
  | tick clock =>
    refine fun d h => ⟨⟨h.recorded, h.stored, h.named, h.cleared, h.completed, h.published,
      fun hquiet => ?_⟩, fun i => ⟨suffix_refl _, id, id, fun _ hw => ⟨hw, rfl, rfl⟩,
        fun _ hr => ⟨hr, rfl⟩⟩⟩
    have htidy := h.tidy hquiet
    exact ⟨htidy.idle, htidy.alone, htidy.synced, htidy.latest, htidy.forward⟩
  | crash => trivial

theorem sound_fresh (clock : Int) : Sound me (fresh clock) := by
  have hnone (e : ActivationEntry) : e ∉ (fresh clock).entries := not_mem_nil
  refine ⟨fun r hr => absurd hr (by simp [fresh]),
    fun r hr => absurd hr (by simp [fresh]), fun r hr => absurd hr (hnone _),
    fun r hr => absurd hr (hnone _), trivial, fun _ => trivial, fun _ => ?_⟩
  exact ⟨fun _ => rfl, fun hw => absurd rfl hw, fun hh => absurd hh (by simp [fresh]),
    fun r hr => absurd hr (hnone _), trivial⟩

/-- A crash takes the copy in memory, and the calls that were under way. -/
theorem sound_restart {d : Device} (h : Sound me d) : Sound me d.restart := by
  refine ⟨fun r hr => absurd hr (by simp [restart]), h.stored, h.named, h.cleared,
    h.completed, h.published, fun hquiet => ?_⟩
  have htidy := h.tidy hquiet
  exact ⟨fun _ => rfl, fun hw => absurd rfl hw, fun hh => absurd hh (by simp [restart]),
    htidy.latest, htidy.forward⟩

/-- A device that was just linked, and what happens to it. -/
def activationRun (me : Identity) (clock : Int) (acts : List Act) : Device :=
  (Runs.run (step me) (Pool.idle (fresh clock)) acts).state

theorem sound_run (me : Identity) (clock : Int) (acts : List Act) :
    Sound me (activationRun me clock acts) := by
  have hallowed : ∀ a ∈ acts.map (Act.toStep me), a.Allowed (discipline me) := by
    intro a ha
    obtain ⟨act, -, rfl⟩ := mem_map.1 ha
    exact allowed_act act
  have hrun := Runs.run_map (Pool.step restart) (Act.toStep me)
    (Pool.idle (fresh clock)) acts
  rw [show activationRun me clock acts = _ from congrArg Pool.state hrun.symm]
  exact Pool.run_inv (D := discipline me) (fun _ h => sound_restart h) (sound_fresh clock) _ hallowed

/-- Whatever comes between the calls: a record becomes ready by a completion of its own, and a
delegated device publishes its bundle only when that has happened, or when it saw the network
serve it. -/
theorem run_accounted (me : Identity) (clock : Int) (acts : List Act) :
    Throughout CompletedByItsOwn (activationRun me clock acts).entries ∧
    (me.Delegated → Throughout PublishedWhenCleared (activationRun me clock acts).entries) :=
  ⟨(sound_run me clock acts).completed, (sound_run me clock acts).published⟩

/-- In every run in which no write of the journal is begun while another access is pending,
and none fails after it has taken effect, the record only moves forward, only a completion of
its own makes it ready, and the device publishes no earlier. -/
theorem run_activationSafe (me : Identity) (clock : Int) (acts : List Act)
    (hquiet : (activationRun me clock acts).disturbed = false) :
    ActivationSafe me (activationRun me clock acts).entries where
  forward := ((sound_run me clock acts).tidy hquiet).forward
  completed := (sound_run me clock acts).completed
  published := (sound_run me clock acts).published

/-- A device that was linked by the certificate `c1`. -/
def linked : Identity := ⟨"d2", [⟨some "c1", "d2"⟩]⟩

/-- Its first connect begins the activation. -/
def linkedActs : List Act :=
  [.call .sync, .resume 0 .ok, .resume 0 .ok, .resume 0 .ok, .resume 0 .ok, .resume 0 .ok,
    .resume 0 .ok]

/-- The marker of `c1`, after all of the baseline. -/
def linkedMarker : Completion := ⟨"c1", "d1", some 3, 3⟩

theorem run_activationSafe_linked :
    ActivationSafe linked (activationRun linked 0 (linkedActs ++
      [.call (.baselineComplete linkedMarker), .resume 1 .ok, .resume 1 .ok])).entries :=
  run_activationSafe linked 0 _ (by decide)

/-- The network serves the device already: `markActive` is writing, the copy in memory is still
`BOOTSTRAPPING`, and a marker comes. `markReady` finds what it asks for, and its record is the
last to be stored. -/
theorem active_thenReady :
    ¬ ∀ me clock acts, ActivationSafe me (activationRun me clock acts).entries := by
  intro h
  have hrun := (h linked 0 (linkedActs ++ [.network true, .call .sync, .resume 1 .ok,
    .resume 1 .ok, .resume 1 .ok, .call (.baselineComplete linkedMarker), .resume 2 .ok,
    .resume 1 .ok, .resume 2 .ok])).forward
  have hback : ActivationStage.active.rank ≤ ActivationStage.ready.rank :=
    hrun.1 ⟨"c1", .active, 0, "", 0⟩ (by decide) rfl
  exact absurd hback (by decide)

end Run

end RezChat.Devices
