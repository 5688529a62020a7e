/-
What the account-control channel leaves open.

An open client is being opened, kept, or torn down, as long as nothing crosses an opening or a
teardown and neither fails halfway (`Bounded`). There is then at most one at a time, and none after a
`close` has resolved. The invariant says how the three ways to hold a client exclude each other; each
event is shown to keep it. What follows after that, about `suspend`, needs no condition: the opening
that the next `execute` makes is followed to its end.
-/
import RezChat.Runtime.AccountControl

set_option autoImplicit false

namespace RezChat.Runtime

open List Option Table Bool Call Client Runs

namespace Channel

variable {s : Channel} {c k : Nat} {x y : Client} {q t : Call} {factory : Bool}

/-! ## What is open is held -/

/-- The client `c` is being opened. -/
def Opening (s : Channel) (c : Nat) : Prop :=
  ∃ x, s.clients[c]? = some x ∧ x.stage.settled = false

/-- Every open client is being opened, kept, or torn down; and while one is torn down nothing else
is open, or is going to be. -/
structure Bounded (s : Channel) : Prop where
  sound : Sound s
  fitted : ∀ (c : Nat) (x : Client), s.clients[c]? = some x → x.stage ≠ .making →
    x.stage ≠ .rejected → x.features.closes = true
  alive : ∀ (c : Nat) (x : Client), s.clients[c]? = some x → x.live = true →
    x.stage = .connected ∨ x.stage = .resolved
  held : ∀ c, s.Live c → s.Opening c ∨ s.client = some c ∨ ∃ q ∈ s.calls, q.dismantles = some c
  alone : ∀ q ∈ s.calls, ∀ c, q.dismantles = some c → s.Live c →
    s.client = none ∧ (∀ d, ¬ s.Opening d) ∧
      (∀ t ∈ s.calls, ∀ d, t.dismantles = some d → s.Live d → d = c) ∧
      ∀ t ∈ s.calls, t.isClose = true → t.dismantles = some c
  ended : ∀ verb c ok, .teardown verb (.disconnected c ok) ∈ s.calls → ¬ s.Live c
  shut : s.closed = true → s.client = none ∧ ∀ c, ¬ s.Opening c
  closing : ∀ q ∈ s.calls, q.isClose = true → s.closed = true

theorem bounded_start : Bounded start where
  sound := sound_start
  fitted _ _ h := nomatch h
  alive _ _ h := nomatch h
  held _ h := nomatch h
  alone _ h := nomatch h
  ended _ _ _ h := nomatch h
  shut h := absurd h false_ne_true
  closing _ h := nomatch h

variable {d : Nat}

/-- There is one opening at a time. -/
theorem Sound.opening_unique (h : Sound s) (hc : s.Opening c) (hd : s.Opening d) :
    c = d := by
  obtain ⟨x, hx, hstage⟩ := hc
  obtain ⟨y, hy, hstage'⟩ := hd
  exact some_inj.1 ((h.pending c x hx hstage).1.symm.trans (h.pending d y hy hstage').1)

theorem Sound.client_of_opening (h : Sound s) (hc : s.Opening c) : s.client = none := by
  obtain ⟨x, hx, hstage⟩ := hc
  exact (h.pending c x hx hstage).2

theorem Bounded.oneLive (h : Bounded s) : s.OneLive := by
  intro c d hc hd
  rcases h.held c hc with hopen | hclient | ⟨q, hq, hdismantles⟩
  · rcases h.held d hd with hopen' | hclient' | ⟨t, ht, hdismantles'⟩
    · exact h.sound.opening_unique hopen hopen'
    · rw [h.sound.client_of_opening hopen] at hclient'
      cases hclient'
    · exact absurd hopen ((h.alone t ht d hdismantles' hd).2.1 c)
  · rcases h.held d hd with hopen' | hclient' | ⟨t, ht, hdismantles'⟩
    · rw [h.sound.client_of_opening hopen'] at hclient
      cases hclient
    · exact some_inj.1 (hclient.symm.trans hclient')
    · rw [(h.alone t ht d hdismantles' hd).1] at hclient
      cases hclient
  · obtain ⟨hnone, hnoOpening, hunique, _⟩ := h.alone q hq c hdismantles hc
    rcases h.held d hd with hopen' | hclient' | ⟨t, ht, hdismantles'⟩
    · exact absurd hopen' (hnoOpening d)
    · rw [hnone] at hclient'
      cases hclient'
    · exact (hunique t ht d hdismantles' hd).symm

theorem Bounded.closedForGood (h : Bounded s) : s.ClosedForGood := by
  intro hresolved c hc
  obtain ⟨hnone, hnoOpening⟩ := h.shut (h.closing _ hresolved rfl)
  rcases h.held c hc with hopen | hclient | ⟨q, hq, hdismantles⟩
  · exact hnoOpening c hopen
  · rw [hnone] at hclient
    cases hclient
  · -- whatever was being torn down, the resolved `close` would be tearing it down
    have hclose := (h.alone q hq c hdismantles hc).2.2.2 _ hresolved rfl
    cases hclose

/-! ### What keeps it -/

theorem isTeardown_of_dismantles (h : q.dismantles = some c) : isTeardown q = true := by
  cases q with
  | execute p => cases h
  | teardown verb p => rfl

theorem isTeardown_of_isClose (h : q.isClose = true) : isTeardown q = true := by
  cases q with
  | execute p => cases h
  | teardown verb p => rfl

/-- Calls of `execute` are nothing to it. -/
theorem Bounded.congr {s' : Channel} (h : Bounded s) (hsound : Sound s')
    (hclients : s'.clients = s.clients) (hclient : s'.client = s.client)
    (hclosed : s'.closed = s.closed)
    (hcalls : ∀ q, isTeardown q = true → (q ∈ s'.calls ↔ q ∈ s.calls)) : Bounded s' := by
  have hlive : ∀ c, s'.Live c ↔ s.Live c := fun c => by rw [Live, Live, hclients]
  have hopening : ∀ c, s'.Opening c ↔ s.Opening c := fun c => by rw [Opening, Opening, hclients]
  refine ⟨hsound, fun c x hx => h.fitted c x (hclients ▸ hx), fun c x hx => h.alive c x (hclients ▸ hx),
    fun c hc => ?_, fun q hq c hdismantles hc => ?_, fun verb c ok hq hc => ?_, fun hshut => ?_,
    fun q hq hclose => ?_⟩
  · rcases h.held c ((hlive c).1 hc) with hopen | hkept | ⟨q, hq, hdismantles⟩
    · exact .inl ((hopening c).2 hopen)
    · exact .inr (.inl (hclient.trans hkept))
    · exact .inr (.inr ⟨q, (hcalls q (isTeardown_of_dismantles hdismantles)).2 hq, hdismantles⟩)
  · obtain ⟨hnone, hno, hunique, hclose⟩ := h.alone q
      ((hcalls q (isTeardown_of_dismantles hdismantles)).1 hq) c hdismantles ((hlive c).1 hc)
    refine ⟨hclient.trans hnone, fun d hd => hno d ((hopening d).1 hd), fun t ht d hd hd' => ?_,
      fun t ht htclose => ?_⟩
    · exact hunique t ((hcalls t (isTeardown_of_dismantles hd)).1 ht) d hd ((hlive d).1 hd')
    · exact hclose t ((hcalls t (isTeardown_of_isClose htclose)).1 ht) htclose
  · exact h.ended verb c ok ((hcalls _ rfl).1 hq) ((hlive c).1 hc)
  · obtain ⟨hnone, hno⟩ := h.shut (hclosed ▸ hshut)
    exact ⟨hclient.trans hnone, fun c hc => hno c ((hopening c).1 hc)⟩
  · rw [hclosed]
    exact h.closing q ((hcalls q (isTeardown_of_isClose hclose)).1 hq) hclose

theorem mem_addCall_iff {p : ExecutePhase} (hq : isTeardown q = true) :
    q ∈ s.calls ++ [.execute p] ↔ q ∈ s.calls := by
  refine ⟨fun hmem => ?_, fun hmem => mem_append_left _ hmem⟩
  rcases mem_append hmem with hold | hnew
  · exact hold
  · rw [hnew] at hq
    cases hq

theorem mem_setCall_iff {p p' : ExecutePhase} (hk : s.calls[k]? = some (.execute p))
    (hq : isTeardown q = true) : q ∈ s.calls.set k (.execute p') ↔ q ∈ s.calls := by
  refine ⟨fun hmem => ?_, fun hmem => mem_set_of_ne hk hmem fun heq => ?_⟩
  · rcases mem_set hmem with hold | hnew
    · exact hold
    · rw [hnew] at hq
      cases hq
  · rw [heq] at hq
    cases hq

theorem live_iff_liveAt : s.Live c ↔ s.liveAt c = true := by
  rw [Live, liveAt]
  cases s.clients[c]? with
  | none => simp
  | some x => simp

/-- Nothing is torn down whose session is open. -/
theorem not_live_of_dismantling (h : s.dismantling = false) (hq : q ∈ s.calls)
    (hdismantles : q.dismantles = some c) : ¬ s.Live c := by
  rw [dismantling, List.any_eq_false] at h
  have hnot := h q hq
  rw [hdismantles] at hnot
  exact fun hlive => hnot (live_iff_liveAt.1 hlive)

theorem not_opening (h : s.opening = false) (c : Nat) : ¬ s.Opening c := by
  rintro ⟨x, hx, hstage⟩
  rw [opening, List.any_eq_false] at h
  exact h x (mem_of_getElem? hx) (by rw [hstage]; rfl)

theorem begin_live (factory : Bool) (created : Option Features) :
    (begin factory created).live = false := by
  cases factory with
  | true => rfl
  | false => cases created <;> rfl

variable {created : Option Features}

theorem begin_fitted (h : ∀ f ∈ created, f.closes = true)
    (hmaking : (begin factory created).stage ≠ .making)
    (hrejected : (begin factory created).stage ≠ .rejected) :
    (begin factory created).features.closes = true := by
  cases factory with
  | true => exact absurd rfl hmaking
  | false =>
    cases created with
    | none => exact absurd rfl hrejected
    | some f => exact h f rfl

theorem Bounded.openClient (h : Bounded s) (hvacant : s.vacant = true)
    (hdismantling : s.dismantling = false)
    (hcreated : ∀ f ∈ created, f.closes = true) :
    Bounded (s.accept.openClient factory created) := by
  obtain ⟨hclosed, hclient, hpromise⟩ := vacant_iff.1 hvacant
  have hsound := h.sound.openClient hclient hpromise factory created
  have hold : ∀ d, (s.accept.openClient factory created).Live d → s.Live d := by
    rintro d ⟨x, hx, hlive⟩
    rcases getElem_append hx with ⟨_, hnew⟩ | ⟨_, hget⟩
    · rw [hnew, begin_live] at hlive
      exact absurd hlive false_ne_true
    · exact ⟨x, hget, hlive⟩
  refine ⟨hsound, fun d x hx hmaking hrejected => ?_, fun d x hx hlive => ?_, fun d hd => ?_,
    fun q hq d hdismantles hd => ?_, fun verb d ok hq hd => ?_, fun hshut => ?_, fun q hq hclose => ?_⟩
  · rcases getElem_append hx with ⟨_, hnew⟩ | ⟨_, hget⟩
    · subst hnew
      exact begin_fitted hcreated hmaking hrejected
    · exact h.fitted d x hget hmaking hrejected
  · rcases getElem_append hx with ⟨_, hnew⟩ | ⟨_, hget⟩
    · rw [hnew, begin_live] at hlive
      exact absurd hlive false_ne_true
    · exact h.alive d x hget hlive
  · rcases h.held d (hold d hd) with ⟨x, hx, hstage⟩ | hkept | ⟨q, hq, hdismantles⟩
    · exact .inl ⟨x, append_left hx, hstage⟩
    · exact .inr (.inl hkept)
    · exact .inr (.inr ⟨q, mem_append_left _ hq, hdismantles⟩)
  · have hq' := (mem_addCall_iff (isTeardown_of_dismantles hdismantles)).1 hq
    exact absurd (hold d hd) (not_live_of_dismantling hdismantling hq' hdismantles)
  · exact h.ended verb d ok ((mem_addCall_iff rfl).1 hq) (hold d hd)
  · have hshut' : s.closed = true := hshut
    rw [hclosed] at hshut'
    exact absurd hshut' false_ne_true
  · exact h.closing q ((mem_addCall_iff (isTeardown_of_isClose hclose)).1 hq) hclose

theorem Bounded.execute (h : Bounded s)
    (hok : s.Uncrossed (.execute created)) : Bounded (s.execute factory created) := by
  have hsound := h.sound.execute factory created
  rcases execute_cases s factory created with hs | ⟨c, _, hs⟩ | ⟨c, _, hs⟩ | ⟨hvacant, hs⟩
  · rw [hs]
    exact h
  · rw [hs] at hsound ⊢
    exact h.congr hsound rfl rfl rfl fun q hq => mem_addCall_iff hq
  · rw [hs] at hsound ⊢
    exact h.congr hsound rfl rfl rfl fun q hq => mem_addCall_iff hq
  · rw [hs]
    obtain ⟨hdismantling, hcreated⟩ := hok hvacant
    exact h.openClient hvacant hdismantling hcreated

theorem dismantles_of_closes {f : Features} (hf : f.closes = true) (verb : Verb) (c : Nat) :
    (teardown verb (dismantle f c)).dismantles = some c := by
  rw [dismantle, stopNext]
  by_cases hdisconnect : f.disconnect = true
  · rw [if_pos hdisconnect]
    rfl
  · rw [if_neg hdisconnect]
    have hstop : f.stop = true := by
      rw [Features.closes, not_eq_true _ |>.mp hdisconnect] at hf
      exact hf
    rw [if_pos hstop]
    rfl

theorem teardownCall_not_disconnected {verb v : Verb} {ok : Bool} :
    s.teardownCall verb ≠ .teardown v (.disconnected c ok) := by
  rw [teardownCall]
  cases s.client with
  | none => exact fun hne => by cases hne
  | some d =>
    simp only [dismantle, stopNext]
    by_cases hdisconnect : (s.features d).disconnect = true
    · rw [if_pos hdisconnect]
      exact fun hne => by cases hne
    · rw [if_neg hdisconnect]
      by_cases hstop : (s.features d).stop = true
      · rw [if_pos hstop]
        exact fun hne => by cases hne
      · rw [if_neg hstop]
        exact fun hne => by cases hne

/-- The client that is let go of is torn down. -/
theorem Bounded.dismantles_client (h : Bounded s) (hc : s.client = some c) (verb : Verb) :
    (s.teardownCall verb).dismantles = some c := by
  obtain ⟨x, hx, hstage⟩ := h.sound.current c hc
  have hfits := h.fitted c x hx (fun hne => by cases hstage.symm.trans hne)
    (fun hne => by cases hstage.symm.trans hne)
  have hfeatures : s.features c = x.features := by rw [features, hx]
  rw [teardownCall, hc]
  show (teardown verb (dismantle (s.features c) c)).dismantles = some c
  rw [hfeatures]
  exact dismantles_of_closes hfits verb c

/-- A teardown begins while nothing is being opened. -/
theorem Bounded.teardown {s' : Channel} (verb : Verb) (h : Bounded s) (hsound : Sound s')
    (hclient : s'.client = none) (hclients : s'.clients = s.clients)
    (hcalls : s'.calls = s.calls ++ [s.teardownCall verb]) (hopening : ∀ c, ¬ s.Opening c)
    (hclosed : s'.closed = true → s.closed = true ∨ verb = .close)
    (hstays : s.closed = true ∨ verb = .close → s'.closed = true)
    (hdismantling : verb = .close → s.dismantling = false) : Bounded s' := by
  have hlive : ∀ c, s'.Live c ↔ s.Live c := fun c => by rw [Live, Live, hclients]
  have hopening' : ∀ c, ¬ s'.Opening c := fun c hc => by
    rw [Opening, hclients] at hc
    exact hopening c hc
  have hnewClose : (s.teardownCall verb).isClose = true → verb = .close := fun hc => by
    cases verb with
    | close => rfl
    | suspend => exact absurd hc false_ne_true
    | idle => exact absurd hc false_ne_true
  refine ⟨hsound, fun c x hx => h.fitted c x (hclients ▸ hx), fun c x hx => h.alive c x (hclients ▸ hx),
    fun c hc => ?_, fun q hq c hdismantles hc => ?_, fun verb' c ok hq hc => ?_,
    fun _ => ⟨hclient, hopening'⟩, fun q hq hclose => ?_⟩
  · rw [hcalls]
    rcases h.held c ((hlive c).1 hc) with hopen | hkept | ⟨q, hq, hdismantles⟩
    · exact absurd hopen (hopening c)
    · exact .inr (.inr ⟨_, mem_append_right _ (mem_singleton.2 rfl),
        h.dismantles_client hkept verb⟩)
    · exact .inr (.inr ⟨q, mem_append_left _ hq, hdismantles⟩)
  · refine ⟨hclient, hopening', ?_⟩
    rw [hcalls] at hq ⊢
    have hc' := (hlive c).1 hc
    rcases mem_append hq with hold | hnew
    · -- one was being torn down already: the channel keeps no client now
      obtain ⟨hnone, _, hunique, hcloses⟩ := h.alone q hold c hdismantles hc'
      have hverb : verb ≠ .close := fun hv =>
        not_live_of_dismantling (hdismantling hv) hold hdismantles hc'
      refine ⟨fun t ht d hd hd' => ?_, fun t ht htclose => ?_⟩
      · rcases mem_append ht with hold' | hnew'
        · exact hunique t hold' d hd ((hlive d).1 hd')
        · rw [hnew'] at hd
          have hkept := dismantles_teardownCall hd
          rw [hnone] at hkept
          cases hkept
      · rcases mem_append ht with hold' | hnew'
        · exact hcloses t hold' htclose
        · exact absurd (hnewClose (hnew' ▸ htclose)) hverb
    · rw [hnew] at hdismantles
      have hkept := dismantles_teardownCall hdismantles
      refine ⟨fun t ht d hd hd' => ?_, fun t ht htclose => ?_⟩
      · rcases mem_append ht with hold' | hnew'
        · rw [(h.alone t hold' d hd ((hlive d).1 hd')).1] at hkept
          cases hkept
        · rw [hnew'] at hd
          exact some_inj.1 (hd.symm.trans hdismantles)
      · rcases mem_append ht with hold' | hnew'
        · rw [(h.shut (h.closing t hold' htclose)).1] at hkept
          cases hkept
        · rw [hnew']
          exact hdismantles
  · rw [hcalls] at hq
    rcases mem_append hq with hold | hnew
    · exact h.ended verb' c ok hold ((hlive c).1 hc)
    · exact teardownCall_not_disconnected hnew.symm
  · rw [hcalls] at hq
    rcases mem_append hq with hold | hnew
    · exact hstays (.inl (h.closing q hold hclose))
    · exact hstays (.inr (hnewClose (hnew ▸ hclose)))

theorem Bounded.close (h : Bounded s) (hok : s.Uncrossed .close) : Bounded s.close :=
  h.teardown .close h.sound.close rfl rfl rfl (not_opening hok.1) (fun _ => .inr rfl)
    (fun _ => rfl) (fun _ => hok.2)

/-- Nothing is being opened while nothing is in flight. -/
theorem Sound.notOpening (h : Sound s) (hidle : s.inFlight = 0) (c : Nat) : ¬ s.Opening c := by
  rintro ⟨x, hx, hstage⟩
  have hpromise := (h.pending c x hx hstage).1
  rw [h.noPromise hidle] at hpromise
  cases hpromise

theorem Bounded.untimed (h : Bounded s) : Bounded { s with idleTimer := false } :=
  h.congr h.sound.untimed rfl rfl rfl fun _ _ => .rfl

theorem Bounded.suspend (h : Bounded s) : Bounded s.suspend.1 := by
  have hsound := h.sound.suspend
  rw [Channel.suspend] at hsound ⊢
  by_cases hclosed : s.closed = true
  · rw [if_pos hclosed]
    exact h
  rw [if_neg hclosed] at hsound ⊢
  by_cases hflight : 0 < s.inFlight
  · rw [if_pos hflight]
    exact h
  rw [if_neg hflight] at hsound ⊢
  by_cases hnone : s.client = none ∧ s.connectPromise = none
  · rw [if_pos hnone]
    exact h.untimed
  · rw [if_neg hnone] at hsound ⊢
    exact h.untimed.teardown .suspend hsound rfl rfl rfl
      (h.sound.notOpening (Nat.eq_zero_of_not_pos hflight)) (fun hc => .inl hc)
      (fun hc => hc.resolve_right fun hv => by cases hv) fun hv => by cases hv

theorem Bounded.idleFires (h : Bounded s) : Bounded s.idleFires := by
  have hsound := h.sound.idleFires
  rw [Channel.idleFires] at hsound ⊢
  by_cases htimer : s.idleTimer = true
  · rw [if_pos htimer] at hsound ⊢
    exact h.untimed.teardown .idle hsound rfl rfl rfl
      (h.sound.notOpening (h.sound.timer htimer)) (fun hc => .inl hc)
      (fun hc => hc.resolve_right fun hv => by cases hv) fun hv => by cases hv
  · rw [if_neg htimer]
    exact h

theorem live_setClient (hx : s.clients[c]? = some x) :
    (s.setClient c y).Live d ↔ (d = c ∧ y.live = true) ∨ (d ≠ c ∧ s.Live d) := by
  constructor
  · rintro ⟨z, hz, hlive⟩
    rcases getElem_set hz with ⟨hdc, hnew⟩ | ⟨hdc, hold⟩
    · exact .inl ⟨hdc, hnew ▸ hlive⟩
    · exact .inr ⟨hdc, z, hold, hlive⟩
  · rintro (⟨rfl, hlive⟩ | ⟨hdc, z, hz, hlive⟩)
    · exact ⟨y, set_self hx, hlive⟩
    · exact ⟨z, set_other hdc hz, hlive⟩

theorem opening_setClient (hx : s.clients[c]? = some x) :
    (s.setClient c y).Opening d ↔ (d = c ∧ y.stage.settled = false) ∨ (d ≠ c ∧ s.Opening d) := by
  constructor
  · rintro ⟨z, hz, hstage⟩
    rcases getElem_set hz with ⟨hdc, hnew⟩ | ⟨hdc, hold⟩
    · exact .inl ⟨hdc, hnew ▸ hstage⟩
    · exact .inr ⟨hdc, z, hold, hstage⟩
  · rintro (⟨rfl, hstage⟩ | ⟨hdc, z, hz, hstage⟩)
    · exact ⟨y, set_self hx, hstage⟩
    · exact ⟨z, set_other hdc hz, hstage⟩

/-- While a client is being opened, nothing is torn down that is open. -/
theorem Bounded.not_live_torn (h : Bounded s) (hopening : s.Opening c) (hq : q ∈ s.calls)
    (hd : q.dismantles = some d) : ¬ s.Live d := fun hlive =>
  (h.alone q hq d hd hlive).2.1 c hopening

/-- An opening goes on. It may bring its client to life, and where it does not end it is under way
still. -/
theorem Bounded.setClient (h : Bounded s) (hx : s.clients[c]? = some x)
    (hpending : x.stage.settled = false)
    (hfits : y.stage ≠ .making → y.stage ≠ .rejected → y.features.closes = true)
    (halive : y.live = true → y.stage = .connected) : Bounded (s.setClient c y) := by
  have hopening : s.Opening c := ⟨x, hx, hpending⟩
  have hsound := h.sound.setClient (y := y) hx (fun _ => hpending) (fun hres => by
    rw [hres] at hpending
    exact absurd hpending.symm false_ne_true)
  have htorn : ∀ q ∈ s.calls, ∀ d, q.dismantles = some d → ¬ (s.setClient c y).Live d := by
    intro q hq d hd hlive
    rcases (live_setClient hx).1 hlive with ⟨hdc, _⟩ | ⟨_, hold⟩
    · -- a client that is being opened is not torn down
      obtain ⟨z, hz, hstage⟩ := (h.sound.torn q hq d hd).2
      rw [hdc] at hz
      rw [some_inj.1 (hx.symm.trans hz), hstage] at hpending
      exact absurd hpending.symm false_ne_true
    · exact h.not_live_torn hopening hq hd hold
  refine ⟨hsound, fun d z hz => ?_, fun d z hz hlive => ?_, fun d hd => ?_,
    fun q hq d hd hlive => absurd hlive (htorn q hq d hd),
    fun verb d ok hq => htorn _ hq d rfl, fun hshut => ?_, h.closing⟩
  · rcases getElem_set hz with ⟨_, hnew⟩ | ⟨_, hold⟩
    · rw [hnew]
      exact hfits
    · exact h.fitted d z hold
  · rcases getElem_set hz with ⟨_, hnew⟩ | ⟨_, hold⟩
    · rw [hnew] at hlive ⊢
      exact .inl (halive hlive)
    · exact h.alive d z hold hlive
  · rcases (live_setClient hx).1 hd with ⟨hdc, hlive⟩ | ⟨hdc, hold⟩
    · refine .inl ((opening_setClient hx).2 (.inl ⟨hdc, ?_⟩))
      rw [halive hlive]
      rfl
    · rcases h.held d hold with hopen | hkept | hdismantled
      · exact absurd (h.sound.opening_unique hopen hopening) hdc
      · rw [h.sound.client_of_opening hopening] at hkept
        cases hkept
      · exact .inr (.inr hdismantled)
  · exact absurd hopening ((h.shut hshut).2 c)

/-- The opening hands its client over. -/
theorem Bounded.handOver (h : Bounded s) (hx : s.clients[c]? = some x)
    (hstage : x.stage = .connected) :
    Bounded ({ s with client := some c }.setClient c { x with stage := .resolved }) := by
  have hpending : x.stage.settled = false := by
    rw [hstage]
    rfl
  have hopening : s.Opening c := ⟨x, hx, hpending⟩
  have hsame : ∀ d, ({ s with client := some c }.setClient c { x with stage := .resolved }).Live d →
      s.Live d := by
    intro d hd
    rcases (live_setClient (s := { s with client := some c }) hx).1 hd with ⟨hdc, hlive⟩ | ⟨_, hold⟩
    · exact ⟨x, hdc ▸ hx, hlive⟩
    · exact hold
  refine ⟨h.sound.handOver hx hpending, fun d z hz => ?_, fun d z hz hlive => ?_, fun d hd => ?_,
    fun q hq d hd hlive => absurd (hsame d hlive) (h.not_live_torn hopening hq hd),
    fun verb d ok hq hlive => h.not_live_torn hopening hq rfl (hsame d hlive), fun hshut => ?_,
    h.closing⟩
  · rcases getElem_set hz with ⟨_, hnew⟩ | ⟨_, hold⟩
    · rw [hnew]
      intro _ _
      exact h.fitted c x hx (fun hne => by cases hstage.symm.trans hne)
        (fun hne => by cases hstage.symm.trans hne)
    · exact h.fitted d z hold
  · rcases getElem_set hz with ⟨_, hnew⟩ | ⟨_, hold⟩
    · rw [hnew]
      exact .inr rfl
    · exact h.alive d z hold hlive
  · by_cases hdc : d = c
    · exact .inr (.inl (congrArg some hdc.symm))
    · rcases h.held d (hsame d hd) with hopen | hkept | hdismantled
      · exact absurd (h.sound.opening_unique hopen hopening) hdc
      · rw [h.sound.client_of_opening hopening] at hkept
        cases hkept
      · exact .inr (.inr hdismantled)
  · exact absurd hopening ((h.shut hshut).2 c)

/-- A client that is not yet connected, or failed to, is not open. -/
theorem Bounded.not_live (h : Bounded s) (hx : s.clients[c]? = some x)
    (hconnected : x.stage ≠ .connected) (hresolved : x.stage ≠ .resolved) : x.live = false := by
  by_cases hlive : x.live = true
  · rcases h.alive c x hx hlive with hstage | hstage
    · exact absurd hstage hconnected
    · exact absurd hstage hresolved
  · exact not_eq_true _ |>.mp hlive

variable {r : Response}

theorem Bounded.clientTurn (h : Bounded s) {made : Features}
    (hok : s.Uncrossed (.clientTurn c r made)) : Bounded (s.clientTurn c r made) := by
  rw [Channel.clientTurn]
  cases hx : s.clients[c]? with
  | none => exact h
  | some x =>
    have hclean : OpensCleanly r made x := hok x hx
    rw [OpensCleanly] at hclean
    simp only
    cases hstage : x.stage with
    | making =>
      have hpending : x.stage.settled = false := by rw [hstage]; rfl
      have hdead : x.live = false := h.not_live hx (fun hne => by cases hstage.symm.trans hne)
        (fun hne => by cases hstage.symm.trans hne)
      rw [hstage] at hclean
      by_cases hr : r = .ok
      · simp only [if_pos hr]
        exact h.setClient hx hpending (fun _ _ => hclean) (fun hlive => by cases hdead.symm.trans hlive)
      · simp only [if_neg hr]
        exact h.setClient hx hpending (fun _ hne => absurd rfl hne)
          (fun hlive => by cases hdead.symm.trans hlive)
    | connecting =>
      have hpending : x.stage.settled = false := by rw [hstage]; rfl
      have hfits := h.fitted c x hx (fun hne => by cases hstage.symm.trans hne)
        (fun hne => by cases hstage.symm.trans hne)
      have hdead : x.live = false := h.not_live hx (fun hne => by cases hstage.symm.trans hne)
        (fun hne => by cases hstage.symm.trans hne)
      rw [hstage] at hclean
      cases r with
      | ok => exact h.setClient hx hpending (fun _ _ => hfits) (fun _ => rfl)
      | throws =>
        exact h.setClient hx hpending (fun _ _ => hfits)
          (fun hlive => by cases hdead.symm.trans hlive)
      | throwsLate => exact absurd rfl hclean
    | connected => exact h.handOver hx hstage
    | broken =>
      have hpending : x.stage.settled = false := by rw [hstage]; rfl
      have hdead : x.live = false := h.not_live hx (fun hne => by cases hstage.symm.trans hne)
        (fun hne => by cases hstage.symm.trans hne)
      exact h.setClient hx hpending (fun _ hne => absurd rfl hne)
        (fun hlive => by cases hdead.symm.trans hlive)
    | resolved => exact h
    | rejected => exact h

/-! ### Tearing down -/

theorem live_of_sessionEnds (h : (s.sessionEnds c r).Live d) : s.Live d := by
  rw [Channel.sessionEnds] at h
  cases hx : s.clients[c]? with
  | none =>
    rw [hx] at h
    exact h
  | some x =>
    rw [hx] at h
    by_cases hr : r = .throws
    · simp only [if_pos hr] at h
      exact h
    · simp only [if_neg hr] at h
      rcases (live_setClient hx).1 h with ⟨_, hlive⟩ | ⟨_, hold⟩
      · exact absurd hlive false_ne_true
      · exact hold

/-- Where it does not fail, the session of the client is over. -/
theorem not_live_sessionEnds (hr : s.liveAt c = true → r ≠ .throws) :
    ¬ (s.sessionEnds c r).Live c := by
  intro hlive
  have hne := hr (live_iff_liveAt.1 (live_of_sessionEnds hlive))
  rw [Channel.sessionEnds] at hlive
  cases hx : s.clients[c]? with
  | none =>
    rw [hx] at hlive
    obtain ⟨x, hx', _⟩ := hlive
    cases hx.symm.trans hx'
  | some x =>
    rw [hx] at hlive
    simp only [if_neg hne] at hlive
    rcases (live_setClient hx).1 hlive with ⟨_, hfalse⟩ | ⟨hcc, _⟩
    · exact absurd hfalse false_ne_true
    · exact hcc rfl

theorem Bounded.sessionEnds (h : Bounded s) (c : Nat) (r : Response) :
    Bounded (s.sessionEnds c r) := by
  have hsound := h.sound.sessionEnds c r
  have hlive : ∀ d, (s.sessionEnds c r).Live d → s.Live d := fun _ hd => live_of_sessionEnds hd
  rw [Channel.sessionEnds] at hsound hlive ⊢
  cases hx : s.clients[c]? with
  | none => exact h
  | some x =>
    rw [hx] at hsound hlive
    simp only at hsound hlive ⊢
    by_cases hr : r = .throws
    · rw [if_pos hr]
      exact h
    rw [if_neg hr] at hsound hlive ⊢
    have hopening : ∀ d, (s.setClient c { x with live := false }).Opening d ↔ s.Opening d := by
      intro d
      rw [opening_setClient hx]
      constructor
      · rintro (⟨rfl, hstage⟩ | ⟨_, hold⟩)
        · exact ⟨x, hx, hstage⟩
        · exact hold
      · rintro ⟨z, hz, hstage⟩
        by_cases hdc : d = c
        · subst hdc
          rw [← some_inj.1 (hx.symm.trans hz)] at hstage
          exact .inl ⟨rfl, hstage⟩
        · exact .inr ⟨hdc, z, hz, hstage⟩
    refine ⟨hsound, fun d z hz => ?_, fun d z hz hd => ?_, fun d hd => ?_,
      fun q hq d hdismantles hd => ?_, fun verb d ok hq hd => h.ended verb d ok hq (hlive d hd),
      fun hshut => ?_, h.closing⟩
    · rcases getElem_set hz with ⟨_, hnew⟩ | ⟨_, hold⟩
      · rw [hnew]
        exact h.fitted c x hx
      · exact h.fitted d z hold
    · rcases getElem_set hz with ⟨_, hnew⟩ | ⟨_, hold⟩
      · rw [hnew] at hd
        exact absurd hd false_ne_true
      · exact h.alive d z hold hd
    · rcases h.held d (hlive d hd) with hopen | hkept | hdismantled
      · exact .inl ((hopening d).2 hopen)
      · exact .inr (.inl hkept)
      · exact .inr (.inr hdismantled)
    · obtain ⟨hnone, hno, hunique, hclose⟩ := h.alone q hq d hdismantles (hlive d hd)
      exact ⟨hnone, fun e he => hno e ((hopening e).1 he),
        fun t ht e he he' => hunique t ht e he (hlive e he'), hclose⟩
    · obtain ⟨hnone, hno⟩ := h.shut hshut
      exact ⟨hnone, fun e he => hno e ((hopening e).1 he)⟩

/-- A teardown goes on, with a client whose session is over. -/
theorem Bounded.teardownGoesOn (h : Bounded s) (hq : s.calls[k]? = some q)
    (hsound : Sound (s.setCall k t)) (hdead : ∀ c, q.dismantles = some c → ¬ s.Live c)
    (hdismantles : t.dismantles = none ∨ t.dismantles = q.dismantles)
    (hclose : t.isClose = q.isClose) : Bounded (s.setCall k t) := by
  have hmem : q ∈ s.calls := mem_of_getElem? hq
  have hnew : ∀ c, t.dismantles = some c → ¬ s.Live c := by
    intro c hc
    rcases hdismantles with hnone | hsame
    · rw [hnone] at hc
      cases hc
    · exact hdead c (hsame ▸ hc)
  refine ⟨hsound, h.fitted, h.alive, fun c hc => ?_, fun u hu c hdis hc => ?_,
    fun verb c ok hu hc => ?_, h.shut, fun u hu huclose => ?_⟩
  · rcases h.held c hc with hopen | hkept | ⟨u, hu, hdis⟩
    · exact .inl hopen
    · exact .inr (.inl hkept)
    · refine .inr (.inr ⟨u, mem_set_of_ne hq hu fun huq => ?_, hdis⟩)
      exact hdead c (huq ▸ hdis) hc
  · have hold : u ∈ s.calls := by
      rcases mem_set hu with hold | hsame
      · exact hold
      · exact absurd hc (hnew c (hsame ▸ hdis))
    obtain ⟨hnone, hno, hunique, hcloses⟩ := h.alone u hold c hdis hc
    refine ⟨hnone, hno, fun v hv d hd hlive => ?_, fun v hv hvclose => ?_⟩
    · rcases mem_set hv with hold' | hsame
      · exact hunique v hold' d hd hlive
      · exact absurd hlive (hnew d (hsame ▸ hd))
    · rcases mem_set hv with hold' | hsame
      · exact hcloses v hold' hvclose
      · -- a `close` that tears down something else would have been in the way
        have hqc := hcloses q hmem (hclose ▸ hsame ▸ hvclose)
        exact absurd hc (hdead c hqc)
  · rcases mem_set hu with hold | hsame
    · exact h.ended verb c ok hold hc
    · exact hnew c (by rw [← hsame]; rfl) hc
  · rcases mem_set hu with hold | hsame
    · exact h.closing u hold huclose
    · exact h.closing q hmem (hclose ▸ hsame ▸ huclose)

theorem Bounded.executeTurn (h : Bounded s) {p : ExecutePhase}
    (hq : s.calls[k]? = some (.execute p)) (r : Response) : Bounded (s.executeTurn k r p) := by
  have hsound := h.sound.executeTurn hq r
  cases p with
  | waits c owner =>
    rw [Channel.executeTurn] at hsound ⊢
    cases hstage : s.clients[c]?.bind fun x => ensuredBy c x.stage with
    | none => exact h
    | some p =>
      rw [hstage] at hsound
      refine h.congr hsound ?_ ?_ ?_ fun q hteardown => ?_
      · cases owner <;> rfl
      · cases owner <;> rfl
      · cases owner <;> rfl
      · show q ∈ (s.cleared owner).calls.set k _ ↔ _
        rw [calls_cleared]
        exact mem_setCall_iff hq hteardown
  | ensured c => exact h.congr hsound rfl rfl rfl fun q hteardown => mem_setCall_iff hq hteardown
  | refused => exact h.congr hsound rfl rfl rfl fun q hteardown => mem_setCall_iff hq hteardown
  | working c => exact h.congr hsound rfl rfl rfl fun q hteardown => mem_setCall_iff hq hteardown
  | ended ok => exact h

theorem Bounded.teardownTurn (h : Bounded s) {verb : Verb} {p : TeardownPhase}
    (hq : s.calls[k]? = some (.teardown verb p))
    (hok : ∀ c ∈ (Call.teardown verb p).dismantles, s.liveAt c = true → r ≠ .throws) :
    Bounded (s.teardownTurn k r verb p) := by
  have hsound := h.sound.teardownTurn hq r
  have hmem : Call.teardown verb p ∈ s.calls := mem_of_getElem? hq
  have hends : ∀ c, (s.sessionEnds c r).calls[k]? = some (.teardown verb p) := fun c => by
    rw [calls_sessionEnds]
    exact hq
  cases p with
  | disconnecting c =>
    refine (h.sessionEnds c r).teardownGoesOn (hends c) hsound (fun d hd => ?_) (.inr rfl)
      (isClose_teardown verb _ _)
    exact some_inj.1 hd ▸ not_live_sessionEnds (hok c rfl)
  | disconnected c ok =>
    have hdead : ∀ d, (Call.teardown verb (.disconnected c ok)).dismantles = some d → ¬ s.Live d :=
      fun d hd => some_inj.1 hd ▸ h.ended verb c ok hmem
    cases ok with
    | true =>
      refine h.teardownGoesOn hq hsound hdead ?_ (isClose_teardown verb _ _)
      exact dismantles_stopNext verb (s.features c) c
    | false => exact h.teardownGoesOn hq hsound hdead (.inl rfl) (isClose_teardown verb _ _)
  | stopping c =>
    refine (h.sessionEnds c r).teardownGoesOn (hends c) hsound (fun d hd => ?_) (.inl rfl)
      (isClose_teardown verb _ _)
    exact some_inj.1 hd ▸ not_live_sessionEnds (hok c rfl)
  | settled ok =>
    exact h.teardownGoesOn hq hsound (fun d hd => nomatch hd) (.inl rfl) (isClose_teardown verb _ _)
  | ended ok => exact h

theorem Bounded.step (h : Bounded s) {e : Event} (hok : s.Uncrossed e) : Bounded (s.step factory e) := by
  cases e with
  | execute created => exact h.execute hok
  | close => exact h.close hok
  | suspend => exact h.suspend
  | idleFires => exact h.idleFires
  | clientTurn c r made => exact h.clientTurn hok
  | callTurn k r =>
    show Bounded (s.callTurn k r)
    rw [Channel.callTurn]
    cases hq : s.calls[k]? with
    | none => exact h
    | some q =>
      have hok' := hok q hq
      cases q with
      | execute p => exact h.executeTurn hq r
      | teardown verb p => exact h.teardownTurn hq hok'

theorem run_bounded (es : List Event) (h : Meets (step factory) Uncrossed start es) :
    Bounded (after factory es) :=
  invariant (step factory) (fun _ _ hs he => hs.step he) es start bounded_start h

/-! ## After a suspension -/

/-- How far a client and a call are. -/
def At (s : Channel) (c k : Nat) (x : Client) (q : Call) : Prop :=
  s.clients[c]? = some x ∧ s.calls[k]? = some q

section Opens

variable {f : Features} {l : Bool} (made : Features)

theorem at_made (h : s.At c k ⟨f, .making, l⟩ q) :
    (s.clientTurn c .ok made).At c k ⟨made, .connecting, l⟩ q := by
  rw [clientTurn, h.1]
  exact ⟨set_self h.1, h.2⟩

theorem at_connected (h : s.At c k ⟨f, .connecting, l⟩ q) :
    (s.clientTurn c .ok made).At c k ⟨f, .connected, true⟩ q := by
  rw [clientTurn, h.1]
  exact ⟨set_self h.1, h.2⟩

theorem at_resolved (h : s.At c k ⟨f, .connected, l⟩ q) :
    (s.clientTurn c .ok made).At c k ⟨f, .resolved, l⟩ q := by
  rw [clientTurn, h.1]
  exact ⟨set_self h.1, h.2⟩

theorem at_ensured (h : s.At c k ⟨f, .resolved, l⟩ (.execute (.waits c true))) :
    (s.callTurn k .ok).At c k ⟨f, .resolved, l⟩ (.execute (.ensured c)) := by
  rw [callTurn, h.2]
  show (s.executeTurn k .ok (.waits c true)).At c k _ _
  rw [executeTurn, h.1]
  exact ⟨h.1, set_self h.2⟩

theorem at_working (h : s.At c k ⟨f, .resolved, l⟩ (.execute (.ensured c))) :
    (s.callTurn k .ok).At c k ⟨f, .resolved, l⟩ (.execute (.working c)) := by
  rw [callTurn, h.2]
  exact ⟨h.1, set_self h.2⟩

/-- An opening that succeeds, without a factory or once the factory has made its client. -/
theorem at_opened (h : s.At c k ⟨f, .connecting, l⟩ (.execute (.waits c true))) :
    (run (step factory) s [.clientTurn c .ok made, .clientTurn c .ok made, .callTurn k .ok,
      .callTurn k .ok]).At c k ⟨f, .resolved, true⟩ (.execute (.working c)) :=
  at_working (at_ensured (at_resolved made (at_connected made h)))

end Opens

/-- Where nothing is kept and nothing is being opened, `execute` opens a client and works on it. -/
theorem works_of_vacant (factory : Bool) (hvacant : s.vacant = true) (f : Features) :
    (run (step factory) s (.execute (some f) ::
      opens factory s.clients.length s.calls.length f)).At s.clients.length s.calls.length
        ⟨f, .resolved, true⟩ (.execute (.working s.clients.length)) := by
  obtain ⟨hclosed, hclient, hpromise⟩ := vacant_iff.1 hvacant
  have hstep : s.step factory (.execute (some f)) = s.accept.openClient factory (some f) := by
    show s.execute factory (some f) = _
    rw [execute, hclosed, if_neg Bool.false_ne_true]
    simp only [ensureClient, accept, hclient, hpromise]
  have hopened : (s.accept.openClient factory (some f)).At s.clients.length s.calls.length
      (begin factory (some f)) (.execute (.waits s.clients.length true)) :=
    ⟨append_self, append_self⟩
  rw [run_cons, hstep]
  cases factory with
  | true => exact at_opened f (at_made f hopened)
  | false => exact at_opened f hopened

theorem Sound.vacant_suspend (h : Sound s) (hclosed : s.closed = false) (hidle : s.inFlight = 0) :
    s.suspend.1.vacant = true := by
  have hpromise := h.noPromise hidle
  have hflight : ¬ 0 < s.inFlight := Nat.not_lt_of_le (Nat.le_of_eq hidle)
  rw [Channel.suspend, if_neg (not_eq_true _ |>.mpr hclosed), if_neg hflight]
  by_cases hnone : s.client = none ∧ s.connectPromise = none
  · rw [if_pos hnone]
    exact vacant_iff.2 ⟨hclosed, hnone⟩
  · rw [if_neg hnone]
    exact vacant_iff.2 ⟨hclosed, rfl, hpromise⟩

theorem Sound.worksAgain (h : Sound s) : s.WorksAgain factory := by
  refine fun hclosed => ⟨fun hflight => ?_, fun hidle f => ?_⟩
  · rw [Channel.suspend, hclosed, if_neg Bool.false_ne_true, if_pos hflight]
  · obtain ⟨hlive, hworking⟩ := works_of_vacant factory (h.vacant_suspend hclosed hidle) f
    exact ⟨hworking, _, hlive, rfl⟩

/-! ## Every run -/

theorem Sound.clientTurn (h : Sound s) (c : Nat) (r : Response) (made : Features) :
    Sound (s.clientTurn c r made) := by
  rw [Channel.clientTurn]
  cases hx : s.clients[c]? with
  | none => exact h
  | some x =>
    -- a client that is being opened is neither held nor torn down, whatever becomes of it
    have hgoes : ∀ y, x.stage.settled = false → Sound (s.setClient c y) := by
      intro y hpending
      refine h.setClient hx (fun _ => hpending) fun hresolved => ?_
      rw [hresolved] at hpending
      cases hpending
    simp only
    cases hstage : x.stage with
    | making =>
      rw [hstage] at hgoes
      by_cases hr : r = .ok
      · simp only [if_pos hr]
        exact hgoes _ rfl
      · simp only [if_neg hr]
        exact hgoes _ rfl
    | connecting =>
      rw [hstage] at hgoes
      cases r <;> exact hgoes _ rfl
    | connected => exact h.handOver hx (by rw [hstage]; rfl)
    | broken =>
      rw [hstage] at hgoes
      exact hgoes _ rfl
    | resolved => exact h
    | rejected => exact h

theorem Sound.step (h : Sound s) (e : Event) : Sound (s.step factory e) := by
  cases e with
  | execute created => exact h.execute factory created
  | close => exact h.close
  | suspend => exact h.suspend
  | idleFires => exact h.idleFires
  | clientTurn c r made => exact h.clientTurn c r made
  | callTurn k r =>
    show Sound (s.callTurn k r)
    rw [Channel.callTurn]
    cases hq : s.calls[k]? with
    | none => exact h
    | some q =>
      cases q with
      | execute p => exact h.executeTurn hq r
      | teardown verb p => exact h.teardownTurn hq r

/-- **A client in use is spared, and a suspended channel works again**, in every run, however calls
cross openings and teardowns, and whatever throws. -/
theorem run_sparesUse (factory : Bool) (es : List Event) :
    (after factory es).UseRespected ∧ (after factory es).WorksAgain factory := by
  have hsound : Sound (after factory es) :=
    invariant_all (step factory) (fun _ e hs => hs.step e) es start sound_start
  exact ⟨hsound.useRespected, hsound.worksAgain⟩

/-! ## The channel as a whole -/

/-- **The exposure is bounded.** Where nothing crosses an opening or a teardown, and neither leaves a
client open that nobody holds, at most one client is open at any time, and none after a `close` has
resolved. That a client in use is torn down by nothing but `close`, and that `execute` works after
`suspend`, needs no condition (`Sound.useRespected`, `Sound.worksAgain`). -/
theorem run_exposureBounded (factory : Bool) (es : List Event)
    (h : Runs.Meets (step factory) Uncrossed start es) (n : Nat) :
    (after factory (es.take n)).OneLive ∧ (after factory (es.take n)).UseRespected ∧
      (after factory (es.take n)).ClosedForGood ∧
      (after factory (es.take n)).WorksAgain factory := by
  have hbounded : Bounded (after factory (es.take n)) :=
    Runs.throughout (step factory) (P := Bounded) (fun es h => run_bounded es h) es h n
  exact ⟨hbounded.oneLive, hbounded.sound.useRespected, hbounded.closedForGood,
    hbounded.sound.worksAgain⟩

/-- A work item, a suspension, another work item, and the end. -/
def suspendedRun : List Event :=
  let f : Features := ⟨true, true⟩
  [.execute (some f)] ++ opens false 0 0 f ++ [.callTurn 0 .ok, .suspend, .callTurn 1 .ok,
    .callTurn 1 .ok, .callTurn 1 .ok, .callTurn 1 .ok, .execute (some f)] ++ opens false 1 2 f ++
    [.callTurn 2 .ok, .close, .callTurn 3 .ok]

theorem run_exposureBounded_suspended : (after false suspendedRun).OneLive :=
  (run_exposureBounded false suspendedRun (by decide) 99).1

/-- A client is being opened when the channel is closed. `close` finds nothing to tear down and
resolves; then the client is open. -/
theorem open_after_close : ¬ ∀ es, (after false es).ClosedForGood := by
  intro h
  refine h [.execute (some ⟨true, true⟩), .close, .callTurn 1 .ok, .clientTurn 0 .ok ⟨true, true⟩] ?_ 0
    ⟨⟨⟨true, true⟩, .connected, true⟩, rfl, rfl⟩
  decide

end Channel

end RezChat.Runtime
