/-
The flag of a message that its author signed twice.

An account that signs two different texts under one message id is in conflict with itself. Both
facts stay in the log, no winner is chosen, and the row is flagged. The log finds conflicts by
author and id. The flag is put on a row by the id alone, when the second fact comes in, and
rows are written anew by others: by a deposit, if the row is gone, and by a local send, over
whatever is there.

`Exact` is what the flag is for: a row is flagged if and only if the log has two facts of its
author under its id. `flags_exact` says in which runs it holds throughout.
-/
import RezChat.Messages.History

set_option autoImplicit false

namespace RezChat.Messages

open Inbox (trim trim_trim trimmed)
open Events (Payload)
open List Option Store Alike Collation Runs FactLog

variable {c : Collation}

/-! ## What comes in, and what is sent -/

/-- A signed message that was decrypted, and passed the gates: the thread it was resolved to,
the account that is its sender (`peerAcct || envelopeSender || payloadSender`), and the
payload. A message that a sibling transfers takes the same way. -/
structure Incoming where
  threadId : String
  senderAccountId : String
  payload : Payload
  eventId : String
  mailboxId : String
  ciphertextB64 : String
  previewText : String

/-- The call that keeps a signed payload: the admission has compared its `contentHash` with the
fingerprint of its bytes. -/
def factCall (threadId : String) (p : Payload) (now : Int) (origin : String) : AppendCall where
  threadId := threadId
  fact := ⟨trimmed p.contentHash, ⟨p.kind.getD "", p.senderAccountId.getD "", p.messageId.getD "",
    "", ""⟩, now, origin⟩

def Incoming.call (r : Incoming) (now : Int) : AppendCall := factCall r.threadId r.payload now "live"

def Incoming.deposit (r : Incoming) (now : Int) : Deposit where
  messageId := if trimmed r.payload.messageId = "" then r.eventId else trimmed r.payload.messageId
  threadId := r.threadId
  senderKey := if r.senderAccountId = "" then r.mailboxId else r.senderAccountId
  packetB64 := r.ciphertextB64
  acceptedAtMs := now
  senderAccountId := r.senderAccountId
  status := some .delivered
  text := r.previewText
  payload := some r.payload

/-- `applyUserMessage` from the admission of a signed message on: the fact, the flag if it is
in conflict, and the row. Where keeping the fact throws, so does all of it. -/
def receive (now : Int) (r : Incoming) (s : Store c) : Store c :=
  match s.appendFact (r.call now) with
  | (s₁, none) => s₁
  | (s₁, some appended) =>
    ((match appended.conflict with
      | none => s₁
      | some k => (s₁.markMessageConflicted r.threadId k.messageId).1).upsertDepositedMessage now
        (r.deposit now)).1

/-- The payload of a message of the owner. -/
def outgoing (ownerAccountId threadId messageId : String) (p : Payload) : Payload :=
  { p with
    threadId := some threadId
    senderAccountId := some ownerAccountId
    messageId := some messageId }

/-- The message part of `send`: its row, and its fact if it is signed. Neither failure stops
the send. -/
def sendMessage (now : Int) (ownerAccountId threadId messageId previewText packetB64 : String)
    (p : Payload) (s : Store c) : Store c :=
  let s₁ := (s.recordOutboundDeposit now ⟨messageId, threadId, ownerAccountId, packetB64, now,
    ownerAccountId, none, previewText, some (outgoing ownerAccountId threadId messageId p)⟩).1
  if threadId = "" ∨ trimmed p.contentHash = "" then s₁
  else (s₁.appendFact
    (factCall threadId (outgoing ownerAccountId threadId messageId p) now "local")).1

/-! ## The law -/

/-- Whose a row is, and under which id it was signed. -/
def ChatMessage.identity (m : ChatMessage) : Identity := (m.senderAccountId, m.wireId)

/-- The log of the thread has two facts under the identity. -/
def FactLog.Disputed (log : FactLog) (threadId : String) (i : Identity) : Prop :=
  ∃ e ∈ log.originals.entries, ∃ e' ∈ log.originals.entries,
    (e.1.1 = threadId ∧ e.2.isBase = true ∧ e.2.identity = i) ∧
    (e'.1.1 = threadId ∧ e'.2.isBase = true ∧ e'.2.identity = i) ∧ e.1.2 ≠ e'.1.2

instance (log : FactLog) (threadId : String) (i : Identity) :
    Decidable (log.Disputed threadId i) :=
  inferInstanceAs (Decidable (∃ e ∈ log.originals.entries, ∃ e' ∈ log.originals.entries,
    (e.1.1 = threadId ∧ e.2.isBase = true ∧ e.2.identity = i) ∧
    (e'.1.1 = threadId ∧ e'.2.isBase = true ∧ e'.2.identity = i) ∧ e.1.2 ≠ e'.1.2))

/-- A row is flagged if and only if its author signed two texts under its id. -/
def Store.Exact (s : Store c) : Prop :=
  ∀ threadId, ∀ m ∈ (s.rows threadId).rows,
    m.conflicted = true ↔ s.facts.Disputed threadId m.identity

/-! ## The log after a call -/

section Log

variable {log : FactLog} {call : AppendCall} {threadId : String} {i : Identity}

theorem disputed_iff : log.Disputed threadId i ↔ ∃ fp fp' f f', fp ≠ fp' ∧
    (log.fact? threadId fp = some f ∧ f.isBase = true ∧ f.identity = i) ∧
    (log.fact? threadId fp' = some f' ∧ f'.isBase = true ∧ f'.identity = i) := by
  constructor
  · rintro ⟨⟨⟨t, fp⟩, f⟩, hf, ⟨⟨t', fp'⟩, f'⟩, hf', ⟨rfl, hbase, hid⟩, ⟨ht', hbase', hid'⟩, hne⟩
    obtain rfl : t' = t := ht'
    exact ⟨fp, fp', f, f', hne, ⟨OrdMap.mem_entries_iff.1 hf, hbase, hid⟩,
      ⟨OrdMap.mem_entries_iff.1 hf', hbase', hid'⟩⟩
  · rintro ⟨fp, fp', f, f', hne, ⟨hf, hbase, hid⟩, ⟨hf', hbase', hid'⟩⟩
    exact ⟨_, OrdMap.mem_entries_iff.2 hf, _, OrdMap.mem_entries_iff.2 hf', ⟨rfl, hbase, hid⟩,
      ⟨rfl, hbase', hid'⟩, hne⟩

/-- With the fact of a call there are two under the identity. -/
def FactLog.DisputedWith (log : FactLog) (call : AppendCall) (threadId : String) (i : Identity) :
    Prop :=
  log.Disputed threadId i ∨
    (IsNew log call ∧ call.row.threadId = threadId ∧ call.row.identity = i ∧
      log.others call.row = true)

instance (log : FactLog) (call : AppendCall) : Decidable (IsNew log call) :=
  inferInstanceAs (Decidable (_ ∧ _ ∧ _))

instance (log : FactLog) (call : AppendCall) (threadId : String) (i : Identity) :
    Decidable (log.DisputedWith call threadId i) :=
  inferInstanceAs (Decidable (_ ∨ (_ ∧ _ ∧ _) ∧ _ ∧ _ ∧ _))

/-- A stored fact stays where it is. -/
theorem Disputed.of_stored {log' : FactLog}
    (h : ∀ fp f, log.fact? threadId fp = some f → log'.fact? threadId fp = some f)
    (hd : log.Disputed threadId i) : log'.Disputed threadId i := by
  rw [disputed_iff] at hd ⊢
  obtain ⟨fp, fp', f, f', hne, ⟨hf, hrest⟩, ⟨hf', hrest'⟩⟩ := hd
  exact ⟨fp, fp', f, f', hne, ⟨h fp f hf, hrest⟩, ⟨h fp' f' hf', hrest'⟩⟩

/-- The fact of a mutation settles nothing. -/
theorem disputed_withFact_of_mutation
    (hnew : log.fact? call.row.threadId call.row.fingerprint = none)
    (hbase : call.row.isBase = false) :
    (log.withFact call.row).Disputed threadId i ↔ log.Disputed threadId i := by
  refine ⟨fun h => ?_, Disputed.of_stored fun fp f hf => fact?_withFact_of hnew hf⟩
  have hold : ∀ fp f, (log.withFact call.row).fact? threadId fp = some f → f.isBase = true →
      log.fact? threadId fp = some f := by
    intro fp f hf hb
    rcases fact?_withFact_cases hf with ⟨_, _, rfl⟩ | hf
    · rw [hbase] at hb
      exact absurd hb Bool.false_ne_true
    · exact hf
  rw [disputed_iff] at h ⊢
  obtain ⟨fp, fp', f, f', hne, ⟨hf, hb, hid⟩, ⟨hf', hb', hid'⟩⟩ := h
  exact ⟨fp, fp', f, f', hne, ⟨hold fp f hf hb, hb, hid⟩, ⟨hold fp' f' hf' hb', hb', hid'⟩⟩

/-- A new base fact settles that its identity is disputed, if there was another. -/
theorem disputed_withFact_iff (hnew : IsNew log call) :
    (log.withFact call.row).Disputed threadId i ↔ log.DisputedWith call threadId i := by
  obtain ⟨hvalid, hbase, hnone⟩ := hnew
  constructor
  · intro h
    rw [disputed_iff] at h
    obtain ⟨fp, fp', f, f', hne, ⟨hf, hb, hid⟩, ⟨hf', hb', hid'⟩⟩ := h
    rcases fact?_withFact_cases hf with ⟨rfl, rfl, rfl⟩ | hf
    · rcases fact?_withFact_cases hf' with ⟨_, rfl, _⟩ | hf'
      · exact absurd rfl hne
      · exact .inr ⟨⟨hvalid, hbase, hnone⟩, rfl, hid,
          others_iff.2 ⟨fp', f', hf', hb', hid'.trans hid.symm⟩⟩
    · rcases fact?_withFact_cases hf' with ⟨rfl, rfl, rfl⟩ | hf'
      · exact .inr ⟨⟨hvalid, hbase, hnone⟩, rfl, hid',
          others_iff.2 ⟨fp, f, hf, hb, hid.trans hid'.symm⟩⟩
      · exact .inl (disputed_iff.2 ⟨fp, fp', f, f', hne, ⟨hf, hb, hid⟩, ⟨hf', hb', hid'⟩⟩)
  · rintro (h | ⟨_, rfl, rfl, hothers⟩)
    · exact Disputed.of_stored (fun fp f hf => fact?_withFact_of hnone hf) h
    · obtain ⟨fp, g, hg, hb, hid⟩ := others_iff.1 hothers
      have hne : call.row.fingerprint ≠ fp := by
        rintro rfl
        rw [hnone] at hg
        exact absurd hg (by simp)
      exact disputed_iff.2 ⟨call.row.fingerprint, fp, call.row, g, hne,
        ⟨fact?_withFact_self, hbase, rfl⟩, ⟨fact?_withFact_of hnone hg, hb, hid⟩⟩

/-- The index entry of a new base fact has another one if and only if there is another. -/
theorem conflictOf_iff (hs : Sound log) (hc : Complete log) (hnew : IsNew log call) :
    conflictOf call.row (entryWith (log.index call.row.threadId) call.row) ≠ none ↔
      log.others call.row = true := by
  have hlisted : (entryWith (log.index call.row.threadId) call.row).fingerprints =
      log.listed call.row.threadId call.row.identity ++ [call.row.fingerprint] := by
    have hnot : call.row.fingerprint ∉ log.listed call.row.threadId call.row.identity := by
      intro hmem
      obtain ⟨f, hf, _⟩ := hs.stored _ _ _ hmem
      rw [hnew.2.2] at hf
      exact absurd hf (by simp)
    rw [FactLog.listed] at hnot ⊢
    rw [entryWith, IndexEntry.with]
    cases hentry : (log.index call.row.threadId).get? call.row.identity with
    | none => rfl
    | some entry =>
      rw [hentry] at hnot
      exact if_neg hnot
  have hlen : 1 < (entryWith (log.index call.row.threadId) call.row).fingerprints.length ↔
      log.listed call.row.threadId call.row.identity ≠ [] := by
    rw [hlisted, length_append, length_singleton, ← length_pos_iff]
    omega
  have hothers : log.others call.row = true ↔
      log.listed call.row.threadId call.row.identity ≠ [] := by
    rw [others_iff]
    constructor
    · rintro ⟨fp, g, hg, hb, hid⟩ hnil
      have hmem := hc _ fp g hg hb
      rw [hid, hnil] at hmem
      exact absurd hmem not_mem_nil
    · intro hne
      obtain ⟨fp, hfp⟩ := exists_mem_of_ne_nil _ hne
      obtain ⟨g, hg, hb, hid⟩ := hs.stored _ _ _ hfp
      exact ⟨fp, g, hg, hb, hid⟩
  rw [hothers, ← hlen, conflictOf]
  split_ifs with h
  · exact iff_of_true (some_ne_none _) h
  · exact iff_of_false (fun hne => hne rfl) h

theorem rows_appendFact (s : Store c) (call : AppendCall) (threadId : String) :
    (s.appendFact call).1.rows threadId = s.rows threadId := by
  simp only [rows, appendFact]

theorem threads_appendFact (s : Store c) (call : AppendCall) :
    (s.appendFact call).1.threads = s.threads := by
  simp only [appendFact]

/-- What a call does to the log, and what it reports. -/
structure AppendSpec (s : Store c) (call : AppendCall) : Prop where
  sound : Sound (s.appendFact call).1.facts
  complete : Complete (s.appendFact call).1.facts
  disputed : ∀ threadId i, (s.appendFact call).1.facts.Disputed threadId i ↔
    s.facts.DisputedWith call threadId i
  returns : (s.appendFact call).2 = none → ¬ IsNew s.facts call
  valid : ∀ a, (s.appendFact call).2 = some a → call.valid = true
  names : ∀ a k, (s.appendFact call).2 = some a → a.conflict = some k →
    k.messageId = call.row.messageId
  reports : ∀ a, (s.appendFact call).2 = some a →
    (a.conflict ≠ none ↔ IsNew s.facts call ∧ s.facts.others call.row = true)

/-- **The log after a fact**: a conflict is reported if and only if the fact is a new base
fact, and not the only one of its identity. -/
theorem appendFact_spec (s : Store c) (call : AppendCall) (hs : Sound s.facts)
    (hc : Complete s.facts) : AppendSpec s call := by
  have happ : ∀ e, appendOriginalFact call [] s.facts = e →
      s.appendFact call = ({ s with facts := e.state }, returnedOf e) := by
    rintro e rfl
    rfl
  by_cases hnew : IsNew s.facts call
  · -- a new base fact
    obtain ⟨hstate, hret⟩ := attempt_new hnew.1 hnew.2.1 hnew.2.2 []
    rw [stopOf, FactLog.after] at hstate
    rw [stopOf, if_pos rfl] at hret
    have hcall : s.appendFact call = ({ s with facts := s.facts.withListed call.row },
        some ⟨true, conflictOf call.row (entryWith (s.facts.index call.row.threadId) call.row),
          call.row⟩) := by
      rw [happ _ rfl, hstate, hret]
    have hconf := conflictOf_iff hs hc hnew
    constructor
    · rw [hcall]
      exact hs.withListed hnew.1 hnew.2.1 hnew.2.2
    · rw [hcall]
      exact hc.withListed
    · intro threadId i
      rw [hcall, ← disputed_withFact_iff hnew]
      rfl
    · intro h
      rw [hcall] at h
      exact absurd h (some_ne_none _)
    · exact fun _ _ => hnew.1
    · intro a k ha hk
      rw [hcall, some_inj] at ha
      rw [← ha] at hk
      dsimp only at hk
      rw [conflictOf] at hk
      split_ifs at hk
      rw [← some_inj.1 hk]
    · intro a ha
      rw [hcall, some_inj] at ha
      rw [← ha, hconf, and_iff_right hnew]
  · have hsame : ∀ threadId i, s.facts.Disputed threadId i ↔
        s.facts.DisputedWith call threadId i := fun threadId i =>
      ⟨.inl, fun h => h.resolve_right fun h => hnew h.1⟩
    -- the log is as good as before, and what is returned has no conflict in it
    have hquiet : Sound (s.appendFact call).1.facts → Complete (s.appendFact call).1.facts →
        (∀ threadId i, (s.appendFact call).1.facts.Disputed threadId i ↔
          s.facts.Disputed threadId i) →
        (∀ a, (s.appendFact call).2 = some a → call.valid = true ∧ a.conflict = none) →
        AppendSpec s call := by
      intro hs' hc' hd' hret
      refine ⟨hs', hc', fun t i => (hd' t i).trans (hsame t i), fun _ => hnew,
        fun a ha => (hret a ha).1, fun a k ha hk => ?_, fun a ha => ?_⟩
      · rw [(hret a ha).2] at hk
        exact absurd hk (by simp)
      · rw [(hret a ha).2]
        exact iff_of_false (fun h => h rfl) fun h => hnew h.1
    by_cases hvalid : call.valid = true
    · cases hfact : s.facts.fact? call.row.threadId call.row.fingerprint with
      | some f =>
        -- the fact is there
        obtain ⟨hstate, hret⟩ := attempt_there hvalid hfact []
        have hfacts : (s.appendFact call).1.facts = s.facts := by
          rw [happ _ rfl]
          exact hstate
        refine hquiet (by rw [hfacts]; exact hs) (by rw [hfacts]; exact hc)
          (fun t i => by rw [hfacts]) fun a ha => ?_
        have hreturned : returnedOf (appendOriginalFact call [] s.facts) = some a := ha
        rw [hret a hreturned]
        exact ⟨hvalid, rfl⟩
      | none =>
        -- the fact of a mutation
        have hbase : call.row.isBase = false := by
          by_contra hb
          exact hnew ⟨hvalid, Bool.eq_true_of_not_eq_false hb, hfact⟩
        have hrecord : recordFact call.row [] s.facts =
            ⟨.returned ⟨true, none, call.row⟩, s.facts.withFact call.row, []⟩ := by
          rw [recordFact, hbase]
          rfl
        have hcall := happ _ ((append_new hvalid hfact).2.trans hrecord)
        refine hquiet ?_ ?_ (fun t i => ?_) fun a ha => ?_
        · rw [hcall]
          exact hs.withFact hvalid hfact
        · rw [hcall]
          exact hc.withMutation hbase
        · rw [hcall]
          exact disputed_withFact_of_mutation hfact hbase
        · rw [hcall, returnedOf] at ha
          exact ⟨hvalid, by rw [← some_inj.1 ha]⟩
    · have hcall := happ _ (attempt_refused (Bool.eq_false_of_not_eq_true hvalid) [])
      refine hquiet ?_ ?_ (fun t i => ?_) fun a ha => ?_
      · rw [hcall]
        exact hs
      · rw [hcall]
        exact hc
      · rw [hcall]
      · rw [hcall, returnedOf] at ha
        exact absurd ha (by simp)

end Log

/-! ## The rows after a call -/

section Rows

variable {s : Store c} {threadId : String} {m : ChatMessage}

theorem mem_rows_iff : m ∈ (s.rows threadId).rows ↔ s.row? threadId m.messageId = some m := by
  rw [row?, Ranking.get?_eq_some]
  exact ⟨fun h => ⟨h, rfl⟩, fun h => h.1⟩

/-- A row with the flag, if it has the id. -/
def flagAt (messageId : String) (m : ChatMessage) : ChatMessage :=
  if m.messageId = messageId then { m with conflicted := true } else m

theorem rows_withFlag {messageId : String} {x : ChatMessage}
    (h : s.row? threadId messageId = some x) :
    ((s.withRow threadId { x with conflicted := true }).rows threadId).rows =
      (s.rows threadId).rows.map (flagAt messageId) := by
  obtain ⟨hmem, hkey⟩ := Ranking.get?_eq_some.1 h
  have hput : ((s.rows threadId).put { x with conflicted := true }).rows =
      (s.rows threadId).rows.map fun y =>
        if y.messageId = x.messageId then { x with conflicted := true } else y :=
    Ranking.rows_put_of_alike (b := x) (hkey ▸ h) (fun _ => .rfl) (fun _ => .rfl)
  rw [rows_withRow, if_pos rfl, hput]
  refine map_congr_left fun y hy => ?_
  rw [flagAt]
  by_cases hyk : y.messageId = messageId
  · -- there is one row with the id
    have hyx : y = x :=
      inj_on_of_nodup_map (s.rows threadId).nodup hy hmem (hyk.trans hkey.symm)
    rw [if_pos (hyk.trans hkey.symm), if_pos hyk, hyx]
  · rw [if_neg fun he => hyk (he.trans hkey), if_neg hyk]

/-- **A mark** flags the row under the id, and nothing else. -/
theorem rows_mark {messageId : String} (ht : trim threadId ≠ "") (hi : trim messageId ≠ "")
    (s : Store c) (threadId' : String) :
    ((s.markMessageConflicted threadId messageId).1.rows threadId').rows =
      if threadId' = trim threadId then (s.rows threadId').rows.map (flagAt (trim messageId))
      else (s.rows threadId').rows := by
  have hargs : ¬ (trim threadId = "" ∨ trim messageId = "") := not_or.2 ⟨ht, hi⟩
  rw [markMessageConflicted, if_neg hargs]
  cases hrow : s.row? (trim threadId) (trim messageId) with
  | none =>
    dsimp only
    split_ifs with h
    · refine ((map_congr_left fun x hx => ?_).trans (map_id _)).symm
      rw [flagAt, if_neg]
      · rfl
      · intro hk
        have hsome : s.row? (trim threadId) (trim messageId) = some x :=
          Ranking.get?_eq_some.2 ⟨h ▸ hx, hk⟩
        rw [hrow] at hsome
        exact absurd hsome (by simp)
    · rfl
  | some x =>
    dsimp only
    by_cases hflag : x.conflicted = true
    · rw [if_pos hflag]
      have hself : ({ x with conflicted := true } : ChatMessage) = x := by
        rw [← hflag]
      split_ifs with h
      · refine ((map_congr_left fun y hy => ?_).trans (map_id _)).symm
        rw [flagAt]
        split_ifs with hk
        · have hsome : s.row? (trim threadId) (trim messageId) = some y :=
            Ranking.get?_eq_some.2 ⟨h ▸ hy, hk⟩
          rw [hrow] at hsome
          rw [← some_inj.1 hsome]
          exact hself
        · rfl
      · rfl
    · rw [if_neg hflag]
      by_cases h : threadId' = trim threadId
      · rw [if_pos h, h]
        exact rows_withFlag hrow
      · rw [if_neg h, rows_withRow, if_neg h]

/-- **Where the rows come from** that a deposit stores: from those that were there, or it is
the new one. -/
theorem mem_rows_insertDeposited {d : Deposit} {now : Int} {effectiveMid threadId : String}
    (ht : trim d.threadId ≠ "") (hi : trim d.messageId ≠ "")
    (hfree : s.freeId? d = some effectiveMid)
    (hm : m ∈ ((s.insertDeposited now d effectiveMid).1.rows threadId).rows) :
    (∃ x ∈ (s.rows threadId).rows, Alike x m) ∨
    (threadId = trim d.threadId ∧ s.HasRoom (trim d.threadId) (d.row effectiveMid) ∧
      Alike (d.row effectiveMid) m) := by
  have he := freeId?_ne_empty hi hfree
  rw [mem_rows_iff] at hm
  by_cases h : threadId = trim d.threadId
  · rw [h, row?_insertDeposited ht he] at hm
    by_cases hid : m.messageId = effectiveMid
    · rw [if_pos hid] at hm
      obtain ⟨r, hr, rfl⟩ := map_eq_some_iff.1 hm
      have hnew : (d.row effectiveMid).messageId ∉
          (s.rows (trim d.threadId)).rows.map ChatMessage.messageId :=
        Ranking.get?_eq_none.1 (freeId?_free hfree)
      have hput : ((s.rows (trim d.threadId)).put (d.row effectiveMid)).get? effectiveMid =
          if s.HasRoom (trim d.threadId) (d.row effectiveMid) then some (d.row effectiveMid)
          else none := Ranking.get?_put_new hnew
      rw [hput] at hr
      split_ifs at hr with hroom
      rw [← some_inj.1 hr]
      exact .inr ⟨h, hroom, alike_settleAll _ _⟩
    · rw [if_neg hid] at hm
      have hold : s.row? (trim d.threadId) m.messageId = some m :=
        Ranking.get?_of_get?_put hid hm
      rw [h]
      exact .inl ⟨m, mem_rows_iff.2 hold, refl m⟩
  · have hframe := (drain_frame (s := s.stored now d effectiveMid) ht he).1 threadId
      m.messageId fun h' => h h'.1
    rw [insertDeposited_fst, hframe, row?, rows_stored, if_neg h] at hm
    exact .inl ⟨m, mem_rows_iff.2 hm, refl m⟩

/-- Where the rows come from after a deposit: from those that were there, or it flagged one, or
stored a new one. -/
theorem mem_rows_upsertDeposited {d : Deposit} {now : Int} {threadId : String}
    (hm : m ∈ ((s.upsertDepositedMessage now d).1.rows threadId).rows) :
    (∃ x ∈ (s.rows threadId).rows, Alike x m) ∨
    (threadId = trim d.threadId ∧ ∃ x, s.row? (trim d.threadId) (trim d.messageId) = some x ∧
      d.Conflicts x ∧ m = { x with conflicted := true }) ∨
    (threadId = trim d.threadId ∧ s.readyThread? (trim d.threadId) ≠ none ∧
      ∃ effectiveMid, s.freeId? d = some effectiveMid ∧
      s.HasRoom (trim d.threadId) (d.row effectiveMid) ∧ Alike (d.row effectiveMid) m) := by
  by_cases hbad : trim d.threadId = "" ∨ trim d.messageId = "" ∨
      s.readyThread? (trim d.threadId) = none
  · rw [upsertDeposited_throws hbad] at hm
    exact .inl ⟨m, hm, refl m⟩
  · rw [not_or, not_or] at hbad
    obtain ⟨ht, hi, hready⟩ := hbad
    have hinsert : ∀ effectiveMid, s.freeId? d = some effectiveMid →
        m ∈ ((s.insertDeposited now d effectiveMid).1.rows threadId).rows → _ :=
      fun effectiveMid hfree hm => mem_rows_insertDeposited ht hi hfree hm
    cases hrow : s.row? (trim d.threadId) (trim d.messageId) with
    | none =>
      have hfree : s.freeId? d = some (trim d.messageId) := by
        rw [freeId?, hrow]
      rw [upsertDeposited_absent ht hi hready hrow] at hm
      rcases hinsert _ hfree hm with hold | ⟨h, hroom, halike⟩
      · exact .inl hold
      · exact .inr (.inr ⟨h, hready, _, hfree, hroom, halike⟩)
    | some x =>
      rw [upsertDeposited_present ht hi hready hrow] at hm
      by_cases hconf : d.Conflicts x
      · rw [if_pos hconf, mem_rows_iff] at hm
        by_cases h : threadId = trim d.threadId
        · rw [h, row?_withFlag hrow] at hm
          split_ifs at hm
          · exact .inr (.inl ⟨h, x, rfl, hconf, (some_inj.1 hm).symm⟩)
          · rw [h]
            exact .inl ⟨m, mem_rows_iff.2 hm, refl m⟩
        · rw [row?, rows_withRow, if_neg h] at hm
          exact .inl ⟨m, mem_rows_iff.2 hm, refl m⟩
      · rw [if_neg hconf] at hm
        cases hfree : s.freeId? d with
        | none =>
          rw [hfree] at hm
          exact .inl ⟨m, hm, refl m⟩
        | some effectiveMid =>
          rw [hfree] at hm
          rcases hinsert _ hfree hm with hold | ⟨h, hroom, halike⟩
          · exact .inl hold
          · exact .inr (.inr ⟨h, hready, _, rfl, hroom, halike⟩)

end Rows

/-! ## The log is left alone -/

section Facts

variable {s : Store c}

theorem facts_applyCore (mu : PendingMutation) (threadId target : String) (s : Store c) :
    (s.applyCoreUnlocked mu threadId target).1.facts = s.facts := by
  rw [applyCoreUnlocked]
  split_ifs
  · rfl
  · cases s.row? threadId target with
    | none => rfl
    | some m =>
      dsimp only
      cases mu.verdict m with
      | applied m' => exact facts_withIdempotency _ _ _
      | refused rejected reason => rfl

theorem facts_writePending (target : String) (mus : List PendingMutation) (s : Store c) :
    (s.writePendingMutations target mus).facts = s.facts := by
  rw [writePendingMutations]
  split_ifs
  · rfl
  · rfl

theorem facts_drain (threadId target : String) (s : Store c) :
    (s.drainPendingMutationsUnlocked threadId target).1.facts = s.facts := by
  rw [drainPendingMutationsUnlocked]
  split_ifs
  · rfl
  · dsimp only
    rw [facts_writePending]
    exact drained_keeps threadId target _ (s, none) (P := fun s' => s'.facts = s.facts)
      (fun s' mu _ h => (facts_applyCore mu threadId target s').trans h) rfl

theorem facts_upsertMessage (now : Int) (m : ChatMessage) (s : Store c) :
    (s.upsertMessageUnlocked now m).facts = s.facts := by
  rw [upsertMessageUnlocked, touchThread]
  cases (s.withRows m.threadId ((s.rows m.threadId).put m)).threads.get? m.threadId with
  | none => rfl
  | some t => rfl

theorem facts_withRow (threadId : String) (m : ChatMessage) (s : Store c) :
    (s.withRow threadId m).facts = s.facts := by
  rw [withRow, facts_withIdempotency]
  rfl

theorem facts_upsertDeposited (now : Int) (d : Deposit) (s : Store c) :
    (s.upsertDepositedMessage now d).1.facts = s.facts := by
  by_cases hbad : trim d.threadId = "" ∨ trim d.messageId = "" ∨
      s.readyThread? (trim d.threadId) = none
  · rw [upsertDeposited_throws hbad]
  · rw [not_or, not_or] at hbad
    rcases upsertDeposited_cases now hbad.1 hbad.2.1 hbad.2.2 with
      ⟨mid, _, hs'⟩ | ⟨_, hs' | ⟨existing, _, hs'⟩⟩
    · rw [hs', insertDeposited_fst, facts_drain, stored, facts_withIdempotency,
        facts_upsertMessage]
    · rw [hs']
    · rw [hs', facts_withRow]

theorem facts_mark (threadId messageId : String) (s : Store c) :
    (s.markMessageConflicted threadId messageId).1.facts = s.facts := by
  rw [markMessageConflicted]
  split_ifs
  · rfl
  · cases s.row? (trim threadId) (trim messageId) with
    | none => rfl
    | some m =>
      dsimp only
      split_ifs
      · rfl
      · exact facts_withRow _ _ _

theorem facts_recordOutbound (now : Int) (d : Deposit) (s : Store c) :
    (s.recordOutboundDeposit now d).1.facts = s.facts := by
  rw [recordOutboundDeposit]
  split_ifs
  · rfl
  · cases s.readyThread? (trim d.threadId) with
    | none => rfl
    | some t =>
      dsimp only
      rw [facts_withIdempotency, facts_upsertMessage]

theorem facts_applyMutation (mu : PendingMutation) (allowBuffer : Bool) (s : Store c) :
    (s.applyMutation mu allowBuffer).1.facts = s.facts := by
  rcases applyMutation_cases mu allowBuffer s with h | ⟨m, m', _, _, _, h⟩ | ⟨_, _, h⟩
  · rw [h]
  · rw [h]
    exact facts_withRow _ _ _
  · rw [h, bufferMutationUnlocked, facts_writePending]

theorem facts_deleteLocal (threadId messageId : String) (s : Store c) :
    (s.applyLocalDelete threadId messageId).1.facts = s.facts := by
  rw [applyLocalDelete]
  split_ifs
  · rfl
  · cases s.row? (trim threadId) (trim messageId) with
    | none => rfl
    | some m =>
      dsimp only
      split_ifs
      · rfl
      · rfl

end Facts

/-! ## The condition -/

/-- The identity under which the row of a deposit is filed. -/
def Deposit.identity (d : Deposit) : Identity := (trim d.senderAccountId, trim d.messageId)

/-- What a message that comes in may find, if the flags are to stay exact:
* a new fact comes from the account that signed it;
* if with it a conflict is reported, the row under the id is one that is in conflict, or has
  the flag already;
* if its author is in conflict with himself, every row of his under that id has the flag, or
  stands under the id where it will get it,
* and no new row is stored for the message;
* if the row under the id says something else, signed by the same account, it is in conflict,
  or has the flag already. -/
structure MayReceive (s : Store c) (now : Int) (r : Incoming) : Prop where
  author : IsNew s.facts (r.call now) → (r.call now).row.senderAccountId = trim r.senderAccountId
  marks : IsNew s.facts (r.call now) → s.facts.others (r.call now).row = true →
    ∀ x ∈ s.row? (trim r.threadId) (r.call now).row.messageId, x.conflicted = true ∨
      s.facts.DisputedWith (r.call now) (trim r.threadId) x.identity
  reaches : s.facts.DisputedWith (r.call now) (trim r.threadId) (r.deposit now).identity →
    ∀ x ∈ (s.rows (trim r.threadId)).rows, x.identity = (r.deposit now).identity →
      x.conflicted = true ∨ x.messageId = trim (r.deposit now).messageId
  stores : s.facts.DisputedWith (r.call now) (trim r.threadId) (r.deposit now).identity →
    s.readyThread? (trim r.threadId) ≠ none →
    ∀ effectiveMid ∈ s.freeId? (r.deposit now),
      ¬ s.HasRoom (trim r.threadId) ((r.deposit now).row effectiveMid)
  compares : ∀ x ∈ s.row? (trim r.threadId) (trim (r.deposit now).messageId),
    (r.deposit now).Conflicts x → x.conflicted = true ∨
      s.facts.DisputedWith (r.call now) (trim r.threadId) x.identity

/-- The fact of a message of the owner, if it is signed. -/
def FactLog.DisputedBySend (log : FactLog) (now : Int)
    (ownerAccountId threadId messageId : String) (p : Payload) : Prop :=
  if threadId = "" ∨ trimmed p.contentHash = "" then
    log.Disputed (trim threadId) (trim ownerAccountId, trim messageId)
  else log.DisputedWith
    (factCall threadId (outgoing ownerAccountId threadId messageId p) now "local")
    (trim threadId) (trim ownerAccountId, trim messageId)

/-- What a message of the owner may find: if with its fact the owner is in conflict with
himself, no row is written for it, and the rows of his under that id have the flag. -/
structure MaySend (s : Store c) (now : Int) (ownerAccountId threadId messageId : String)
    (p : Payload) : Prop where
  stores : s.facts.DisputedBySend now ownerAccountId threadId messageId p →
    s.readyThread? (trim threadId) = none
  keeps : s.facts.DisputedBySend now ownerAccountId threadId messageId p →
    ∀ x ∈ (s.rows (trim threadId)).rows, x.identity = (trim ownerAccountId, trim messageId) →
      x.conflicted = true

/-! ## One call -/

section Steps

variable {s : Store c}

theorem Alike.identity {m m' : ChatMessage} (h : Alike m m') : m'.identity = m.identity := by
  rw [ChatMessage.identity, ChatMessage.identity, h.senderAccountId, h.wireId]

theorem identity_flagAt (messageId : String) (m : ChatMessage) :
    (flagAt messageId m).identity = m.identity := by
  rw [flagAt]
  split_ifs
  · rfl
  · rfl

/-- Rows that come from others, with their flags, are as exact as those. -/
theorem Store.Exact.of_alike {s' : Store c} (h : s.Exact)
    (hd : ∀ threadId i, s'.facts.Disputed threadId i ↔ s.facts.Disputed threadId i)
    (hrows : ∀ threadId, ∀ m ∈ (s'.rows threadId).rows,
      ∃ x ∈ (s.rows threadId).rows, Alike x m) : s'.Exact := by
  intro threadId m hm
  obtain ⟨x, hx, halike⟩ := hrows threadId m hm
  rw [hd, halike.identity, halike.conflicted]
  exact h threadId x hx

/-- **A deposit** keeps flags exact: if it differs from the row under its id, that is one in
conflict; and it is not stored anew if its author is in conflict with himself. -/
theorem exact_upsertDeposited {d : Deposit} (now : Int) (h : s.Exact)
    (hstores : s.facts.Disputed (trim d.threadId) d.identity →
      s.readyThread? (trim d.threadId) ≠ none → ∀ effectiveMid, s.freeId? d = some effectiveMid →
      ¬ s.HasRoom (trim d.threadId) (d.row effectiveMid))
    (hcompares : ∀ x, s.row? (trim d.threadId) (trim d.messageId) = some x → d.Conflicts x →
      s.facts.Disputed (trim d.threadId) x.identity) :
    (s.upsertDepositedMessage now d).1.Exact := by
  intro threadId m hm
  rw [facts_upsertDeposited]
  rcases mem_rows_upsertDeposited hm with ⟨x, hx, halike⟩ | ⟨rfl, x, hx, hconf, rfl⟩ |
    ⟨rfl, hready, mid, hfree, hroom, halike⟩
  · rw [halike.identity, halike.conflicted]
    exact h threadId x hx
  · exact iff_of_true rfl (hcompares x hx hconf)
  · -- the new row has no flag
    have hnot : ¬ s.facts.Disputed (trim d.threadId) d.identity := fun hdis =>
      hstores hdis hready mid hfree hroom
    have hid : m.identity = d.identity := halike.identity
    rw [hid, halike.conflicted]
    exact iff_of_false Bool.false_ne_true hnot

/-- The rows after a fact and its mark. -/
theorem exact_noted {call : AppendCall} {a : Appended} (h : s.Exact)
    (hspec : AppendSpec s call) (hret : (s.appendFact call).2 = some a) {threadId : String}
    (hthread : trim threadId = call.row.threadId)
    (hmarks : IsNew s.facts call → s.facts.others call.row = true →
      ∀ x ∈ s.row? (trim threadId) call.row.messageId, x.conflicted = true ∨
        s.facts.DisputedWith call (trim threadId) x.identity)
    (hreaches : IsNew s.facts call → s.facts.others call.row = true →
      ∀ x ∈ (s.rows (trim threadId)).rows, x.identity = call.row.identity →
      x.conflicted = true ∨ x.messageId = call.row.messageId) :
    Exact (match a.conflict with
      | none => (s.appendFact call).1
      | some k => ((s.appendFact call).1.markMessageConflicted threadId k.messageId).1) := by
  have hreports := hspec.reports a hret
  cases hconf : a.conflict with
  | none =>
    -- no conflict is reported, so that none is new
    intro threadId' m hm
    dsimp only at hm ⊢
    rw [rows_appendFact] at hm
    rw [hspec.disputed, DisputedWith, or_iff_left]
    · exact h threadId' m hm
    · rintro ⟨hnew, _, _, hothers⟩
      exact hreports.2 ⟨hnew, hothers⟩ hconf
  | some k =>
    have hsome : a.conflict ≠ none := by
      rw [hconf]
      exact some_ne_none k
    obtain ⟨hnew, hothers⟩ := hreports.1 hsome
    have hbase := of_decide_eq_true hnew.2.1
    have hname : trim k.messageId = call.row.messageId := by
      rw [hspec.names a k hret hconf, AppendCall.row]
      exact trim_trim _
    have hid : trim k.messageId ≠ "" := hname ▸ hbase.2
    have ht : trim threadId ≠ "" := hthread ▸ (AppendCall.row_ne hnew.1).1
    intro threadId' m hm
    dsimp only at hm ⊢
    rw [rows_mark ht hid, rows_appendFact] at hm
    rw [facts_mark, hspec.disputed]
    by_cases hth : threadId' = trim threadId
    · rw [if_pos hth] at hm
      obtain ⟨x, hx, rfl⟩ := mem_map.1 hm
      have hx' : x ∈ (s.rows threadId').rows := hx
      rw [identity_flagAt]
      by_cases hk : x.messageId = trim k.messageId
      · -- the row under the id gets the flag
        have hrow : s.row? (trim threadId) call.row.messageId = some x :=
          Ranking.get?_eq_some.2 ⟨hth ▸ hx', hk.trans hname⟩
        have hflag : (flagAt (trim k.messageId) x).conflicted = true := by
          rw [flagAt, if_pos hk]
        refine iff_of_true hflag ?_
        rcases hmarks hnew hothers x hrow with hc | hd
        · exact .inl ((h threadId' x hx').1 hc)
        · rw [hth]
          exact hd
      · rw [flagAt, if_neg hk, h threadId' x hx']
        refine ⟨.inl, ?_⟩
        rintro (hd | ⟨_, hth', hxi, _⟩)
        · exact hd
        · -- any other row of the author under the id has the flag already
          rcases hreaches hnew hothers x (hth ▸ hx') hxi.symm with hc | hkey
          · exact (h threadId' x hx').1 hc
          · exact absurd (hkey.trans hname.symm) hk
    · rw [if_neg hth] at hm
      rw [DisputedWith, or_iff_left]
      · exact h threadId' m hm
      · rintro ⟨_, hth', _⟩
        exact hth (hth'.symm.trans hthread.symm)

theorem threads_mark (threadId messageId : String) (s : Store c) :
    (s.markMessageConflicted threadId messageId).1.threads = s.threads := by
  rw [markMessageConflicted]
  split_ifs
  · rfl
  · cases s.row? (trim threadId) (trim messageId) with
    | none => rfl
    | some m =>
      dsimp only
      split_ifs
      · rfl
      · exact threads_withIdempotency _ _ _

/-- A store after a fact and its mark, next to the store before: rows may have got the flag. -/
theorem noted_frame {call : AppendCall} {a : Appended} (hspec : AppendSpec s call)
    (hret : (s.appendFact call).2 = some a) {threadId : String}
    (hthread : trim threadId = call.row.threadId) {s₂ : Store c}
    (hs₂ : s₂ = match a.conflict with
      | none => (s.appendFact call).1
      | some k => ((s.appendFact call).1.markMessageConflicted threadId k.messageId).1) :
    s₂.threads = s.threads ∧ s₂.facts = (s.appendFact call).1.facts ∧
    ∃ f : ChatMessage → ChatMessage, (∀ x, f x = x ∨ f x = { x with conflicted := true }) ∧
      (s₂.rows (trim threadId)).rows = (s.rows (trim threadId)).rows.map f := by
  cases hconf : a.conflict with
  | none =>
    rw [hconf] at hs₂
    rw [hs₂]
    dsimp only
    rw [rows_appendFact, threads_appendFact]
    exact ⟨rfl, rfl, fun x => x, fun _ => .inl rfl, (map_id' _).symm⟩
  | some k =>
    rw [hconf] at hs₂
    rw [hs₂]
    have hsome : a.conflict ≠ none := hconf ▸ some_ne_none k
    obtain ⟨hnew, _⟩ := (hspec.reports a hret).1 hsome
    have hname : trim k.messageId = call.row.messageId := by
      rw [hspec.names a k hret hconf, AppendCall.row]
      exact trim_trim _
    have hid : trim k.messageId ≠ "" := hname ▸ (of_decide_eq_true hnew.2.1).2
    have ht : trim threadId ≠ "" := hthread ▸ (AppendCall.row_ne hnew.1).1
    refine ⟨(threads_mark _ _ _).trans (threads_appendFact s call), facts_mark _ _ _,
      flagAt (trim k.messageId), fun x => ?_, ?_⟩
    · rw [flagAt]
      split_ifs
      · exact .inr rfl
      · exact .inl rfl
    · dsimp only
      rw [rows_mark ht hid, if_pos rfl, rows_appendFact]

/-- The log and the flags are in order. -/
structure Store.Flagged (s : Store c) : Prop where
  sound : Sound s.facts
  complete : Complete s.facts
  exact : s.Exact

/-- Rows that come from others, with their flags, beside the same log. -/
theorem Store.Flagged.of_alike {s' : Store c} (h : s.Flagged) (hfacts : s'.facts = s.facts)
    (hrows : ∀ threadId, ∀ m ∈ (s'.rows threadId).rows,
      ∃ x ∈ (s.rows threadId).rows, Alike x m) : s'.Flagged := by
  refine ⟨?_, ?_, h.exact.of_alike (fun t i => ?_) hrows⟩
  · rw [hfacts]
    exact h.sound
  · rw [hfacts]
    exact h.complete
  · rw [hfacts]

/-- A deposit after a mark, under a condition on the store before it. -/
theorem exact_deposit_after {s₂ : Store c} {d : Deposit} {f : ChatMessage → ChatMessage}
    {D : Identity → Prop} (now : Int) (h : s.Exact) (h₂ : s₂.Exact)
    (hthreads : s₂.threads = s.threads)
    (hf : ∀ x, f x = x ∨ f x = { x with conflicted := true })
    (hrows : (s₂.rows (trim d.threadId)).rows = (s.rows (trim d.threadId)).rows.map f)
    (hdisputed : ∀ i, s₂.facts.Disputed (trim d.threadId) i ↔ D i)
    (hold : ∀ i, s.facts.Disputed (trim d.threadId) i → D i)
    (hstores : D d.identity → s.readyThread? (trim d.threadId) ≠ none →
      ∀ effectiveMid, s.freeId? d = some effectiveMid →
      ¬ s.HasRoom (trim d.threadId) (d.row effectiveMid))
    (hcompares : ∀ x, s.row? (trim d.threadId) (trim d.messageId) = some x → d.Conflicts x →
      x.conflicted = true ∨ D x.identity) :
    (s₂.upsertDepositedMessage now d).1.Exact := by
  have hkey : ∀ x, (f x).messageId = x.messageId := fun x => by
    rcases hf x with hx | hx
    · rw [hx]
    · rw [hx]
  have hsender : ∀ x, (f x).senderAccountId = x.senderAccountId := fun x => by
    rcases hf x with hx | hx
    · rw [hx]
    · rw [hx]
  have hat : ∀ x, (f x).createdAtMs = x.createdAtMs := fun x => by
    rcases hf x with hx | hx
    · rw [hx]
    · rw [hx]
  refine exact_upsertDeposited now h₂ (fun hdis hready mid hfree hroom => ?_) fun x hx hconf => ?_
  · rw [freeId?_of_rows hkey hsender hrows] at hfree
    rw [readyThread?_congr hthreads] at hready
    exact hstores ((hdisputed _).1 hdis) hready mid hfree ((hasRoom_of_rows hkey hat hrows).1 hroom)
  · have hrow : s₂.row? (trim d.threadId) (trim d.messageId) =
        (s.row? (trim d.threadId) (trim d.messageId)).map f := Ranking.get?_map hkey hrows _
    rw [hrow] at hx
    obtain ⟨y, hy, rfl⟩ := map_eq_some_iff.1 hx
    have hlike : d.Conflicts y ∧ (f y).identity = y.identity := by
      rcases hf y with hfy | hfy
      · rw [hfy] at hconf ⊢
        exact ⟨hconf, rfl⟩
      · rw [hfy] at hconf ⊢
        exact ⟨hconf, rfl⟩
    refine (hdisputed _).2 ?_
    rw [hlike.2]
    rcases hcompares y hy hlike.1 with hc | hd
    · have hmem := (Ranking.get?_eq_some.1 hy).1
      exact hold _ ((h (trim d.threadId) y hmem).1 hc)
    · exact hd

/-- A new base fact has the id of the row. -/
theorem row_messageId {now : Int} {r : Incoming} (hid : (r.call now).row.messageId ≠ "") :
    (r.call now).row.messageId = trim (r.deposit now).messageId := by
  have hp : trimmed r.payload.messageId = (r.call now).row.messageId := by
    rw [Incoming.call, factCall, AppendCall.row]
    cases r.payload.messageId with
    | none => rfl
    | some x => rfl
  have hd : (r.deposit now).messageId = (r.call now).row.messageId := by
    rw [Incoming.deposit]
    dsimp only
    rw [hp, if_neg hid]
  rw [hd]
  exact (trim_trim _).symm

/-- A new base fact has the identity of the row, if it comes from its signer. -/
theorem MayReceive.identity {now : Int} {r : Incoming} (h : MayReceive s now r)
    (hnew : IsNew s.facts (r.call now)) :
    (r.call now).row.identity = (r.deposit now).identity ∧
      (r.call now).row.messageId = trim (r.deposit now).messageId := by
  have hmid := row_messageId (of_decide_eq_true hnew.2.1).2
  refine ⟨?_, hmid⟩
  rw [OriginalFact.identity, h.author hnew, hmid]
  rfl

/-- **A message that comes in.** -/
theorem receive_keeps {now : Int} {r : Incoming} (h : s.Flagged)
    (hok : (r.call now).valid = true → MayReceive s now r) : (receive now r s).Flagged := by
  have hspec := appendFact_spec s (r.call now) h.sound h.complete
  have hthread : trim r.threadId = (r.call now).row.threadId := rfl
  cases hcall : s.appendFact (r.call now) with
  | mk s₁ ret =>
    have hs₁ : (s.appendFact (r.call now)).1 = s₁ := by rw [hcall]
    cases ret with
    | none =>
      have hret : (s.appendFact (r.call now)).2 = none := by rw [hcall]
      have hreceive : receive now r s = s₁ := by rw [receive, hcall]
      rw [hreceive, ← hs₁]
      refine ⟨hspec.sound, hspec.complete, fun threadId m hm => ?_⟩
      rw [rows_appendFact] at hm
      rw [hspec.disputed, DisputedWith, or_iff_left fun hnew => hspec.returns hret hnew.1]
      exact h.exact threadId m hm
    | some a =>
      have hret : (s.appendFact (r.call now)).2 = some a := by rw [hcall]
      have hmay := hok (hspec.valid a hret)
      obtain ⟨s₂, hs₂⟩ : ∃ s₂, s₂ = match a.conflict with
          | none => (s.appendFact (r.call now)).1
          | some k =>
            ((s.appendFact (r.call now)).1.markMessageConflicted r.threadId k.messageId).1 :=
        ⟨_, rfl⟩
      have hreceive : receive now r s = (s₂.upsertDepositedMessage now (r.deposit now)).1 := by
        rw [receive, hcall, hs₂, hs₁]
      have hexact : s₂.Exact := by
        rw [hs₂]
        refine exact_noted h.exact hspec hret hthread hmay.marks fun hnew hothers x hx hxi => ?_
        obtain ⟨hident, hmid⟩ := hmay.identity hnew
        rw [hmid]
        refine hmay.reaches (.inr ⟨hnew, rfl, hident, hothers⟩) x hx (hxi.trans hident)
      obtain ⟨hthreads, hfacts, f, hf, hrows⟩ := noted_frame hspec hret hthread hs₂
      have hdisputed : ∀ i, s₂.facts.Disputed (trim r.threadId) i ↔
          s.facts.DisputedWith (r.call now) (trim r.threadId) i := fun i => by
        rw [hfacts]
        exact hspec.disputed _ i
      rw [hreceive]
      constructor
      · rw [facts_upsertDeposited, hfacts]
        exact hspec.sound
      · rw [facts_upsertDeposited, hfacts]
        exact hspec.complete
      · exact exact_deposit_after (d := r.deposit now) now h.exact hexact hthreads hf hrows
          hdisputed (fun i => .inl) hmay.stores hmay.compares

/-- Where the rows come from after the row of a local message: it replaces what is under its
id. -/
theorem mem_rows_recordOutbound {d : Deposit} {now : Int} {threadId : String} {m : ChatMessage}
    (hm : m ∈ ((s.recordOutboundDeposit now d).1.rows threadId).rows) :
    m ∈ (s.rows threadId).rows ∨ (threadId = trim d.threadId ∧
      s.readyThread? (trim d.threadId) ≠ none ∧ m.identity = d.identity ∧ m.conflicted = false) := by
  rw [recordOutboundDeposit] at hm
  split_ifs at hm with hargs
  · exact .inl hm
  · cases hready : s.readyThread? (trim d.threadId) with
    | none =>
      rw [hready] at hm
      exact .inl hm
    | some t =>
      rw [hready] at hm
      dsimp only at hm
      rw [rows_congr (messages_withIdempotency _ _ _), rows_upsertMessage] at hm
      split_ifs at hm with h
      · rcases Ranking.mem_of_mem_put hm with rfl | ⟨hold, _⟩
        · exact .inr ⟨h, some_ne_none t, rfl, rfl⟩
        · rw [h]
          exact .inl hold
      · exact .inl hm

/-- **A message of the owner.** -/
theorem sendMessage_keeps {now : Int} {owner threadId messageId previewText packetB64 : String}
    {p : Payload} (h : s.Flagged) (hok : MaySend s now owner threadId messageId p) :
    (sendMessage now owner threadId messageId previewText packetB64 p s).Flagged := by
  obtain ⟨hstores, hkeeps⟩ := hok
  rw [DisputedBySend] at hstores hkeeps
  rw [sendMessage]
  obtain ⟨d, hd⟩ : ∃ d : Deposit, d = ⟨messageId, threadId, owner, packetB64, now, owner, none,
      previewText, some (outgoing owner threadId messageId p)⟩ := ⟨_, rfl⟩
  rw [← hd]
  have hthread : trim d.threadId = trim threadId := by rw [hd]
  have hident : d.identity = (trim owner, trim messageId) := by rw [hd]; rfl
  have hfacts : (s.recordOutboundDeposit now d).1.facts = s.facts := facts_recordOutbound now d s
  have hrows (threadId' : String) (m : ChatMessage) := @mem_rows_recordOutbound _ s d now threadId' m
  generalize (s.recordOutboundDeposit now d).1 = s₁ at hfacts hrows ⊢
  by_cases hunsigned : threadId = "" ∨ trimmed p.contentHash = ""
  · rw [if_pos hunsigned] at hstores hkeeps ⊢
    refine ⟨hfacts ▸ h.sound, hfacts ▸ h.complete, fun threadId' m hm => ?_⟩
    rw [hfacts]
    rcases hrows threadId' m hm with hold | ⟨rfl, hready, hid, hflag⟩
    · exact h.exact threadId' m hold
    · -- the new row has no flag
      rw [hthread, hid, hident, hflag]
      exact iff_of_false Bool.false_ne_true fun hdis => hready (hthread ▸ hstores hdis)
  · rw [if_neg hunsigned] at hstores hkeeps ⊢
    have hspec := appendFact_spec s₁
      (factCall threadId (outgoing owner threadId messageId p) now "local")
      (hfacts ▸ h.sound) (hfacts ▸ h.complete)
    refine ⟨hspec.sound, hspec.complete, fun threadId' m hm => ?_⟩
    rw [rows_appendFact] at hm
    rw [hspec.disputed, hfacts]
    rcases hrows threadId' m hm with hold | ⟨rfl, hready, hid, hflag⟩
    · rw [h.exact threadId' m hold]
      refine ⟨.inl, fun hdis => ?_⟩
      rcases hdis with hdis | ⟨hnew, hth, hid, hothers⟩
      · exact hdis
      · -- the fact is that of the row of the owner
        have hid' : m.identity = (trim owner, trim messageId) := hid.symm
        have hth' : threadId' = trim threadId := hth.symm
        subst hth'
        refine (h.exact _ m hold).1 (hkeeps (.inr ⟨hnew, rfl, rfl, hothers⟩) m hold hid')
    · rw [hthread, hid, hident, hflag]
      exact iff_of_false Bool.false_ne_true fun hdis => hready (hthread ▸ hstores hdis)

/-- **A mutation** leaves flags and authors as they are. -/
theorem applyMutation_keeps (mu : PendingMutation) (allowBuffer : Bool) (h : s.Flagged) :
    (s.applyMutation mu allowBuffer).1.Flagged := by
  refine h.of_alike (facts_applyMutation mu allowBuffer s) fun threadId m hm => ?_
  by_cases hargs : trim mu.threadId = "" ∨ trim mu.targetMessageId = ""
  · rw [applyMutation_throws hargs] at hm
    exact ⟨m, hm, refl m⟩
  · rw [not_or] at hargs
    rw [mem_rows_iff, row?_applyMutation hargs.1 hargs.2] at hm
    split_ifs at hm with hrow
    · obtain ⟨x, hx, rfl⟩ := map_eq_some_iff.1 hm
      rw [hrow.1]
      exact ⟨x, (Ranking.get?_eq_some.1 hx).1, mu.alike_settle x⟩
    · exact ⟨m, mem_rows_iff.2 hm, refl m⟩

/-- **The fact of a mutation** settles nothing. -/
theorem recordMutation_keeps {call : AppendCall} (h : s.Flagged) (hbase : call.row.isBase = false) :
    (s.appendFact call).1.Flagged := by
  have hspec := appendFact_spec s call h.sound h.complete
  refine ⟨hspec.sound, hspec.complete, h.exact.of_alike (fun t i => ?_) fun threadId m hm => ?_⟩
  · rw [hspec.disputed, DisputedWith, or_iff_left]
    rintro ⟨⟨_, hb, _⟩, _⟩
    rw [hbase] at hb
    exact Bool.false_ne_true hb
  · rw [rows_appendFact] at hm
    exact ⟨m, hm, refl m⟩

/-- **A local delete** takes rows away. -/
theorem deleteLocal_keeps (threadId messageId : String) (h : s.Flagged) :
    (s.applyLocalDelete threadId messageId).1.Flagged := by
  refine h.of_alike (facts_deleteLocal threadId messageId s) fun threadId' m hm =>
    ⟨m, ?_, refl m⟩
  have hsub : ∀ s' : Store c, s'.messages = (s.withRows (trim threadId)
      ((s.rows (trim threadId)).remove (trim messageId))).messages →
      m ∈ (s'.rows threadId').rows → m ∈ (s.rows threadId').rows := by
    intro s' hs' hm
    rw [rows_congr hs', rows_withRows] at hm
    split_ifs at hm with hth
    · rw [hth]
      exact mem_of_mem_filter hm
    · exact hm
  rw [applyLocalDelete] at hm
  split_ifs at hm
  · exact hm
  · cases hrow : s.row? (trim threadId) (trim messageId) with
    | none =>
      rw [hrow] at hm
      exact hm
    | some x =>
      rw [hrow] at hm
      dsimp only at hm
      split_ifs at hm
      · exact hsub _ rfl hm
      · exact hsub _ rfl hm

end Steps

/-! ## Runs -/

/-- What happens to the messages of an account. -/
inductive Move where
  | receive (now : Int) (r : Incoming)
  | send (now : Int) (ownerAccountId threadId messageId previewText packetB64 : String)
      (p : Payload)
  | mutate (mu : PendingMutation) (allowBuffer : Bool)
  | recordMutation (call : AppendCall) (h : call.row.isBase = false)
  | deleteLocal (threadId targetMessageId : String)

def Store.move (s : Store c) : Move → Store c
  | .receive now r => receive now r s
  | .send now owner threadId messageId previewText packetB64 p =>
    sendMessage now owner threadId messageId previewText packetB64 p s
  | .mutate mu allowBuffer => (s.applyMutation mu allowBuffer).1
  | .recordMutation call _ => (s.appendFact call).1
  | .deleteLocal threadId targetMessageId => (s.applyLocalDelete threadId targetMessageId).1

/-- What a move may find, if the flags are to stay exact. -/
def Store.MayMove (s : Store c) : Move → Prop
  | .receive now r => (r.call now).valid = true → MayReceive s now r
  | .send now owner threadId messageId _ _ p => MaySend s now owner threadId messageId p
  | _ => True

theorem move_keeps (s : Store c) (mv : Move) (h : s.Flagged) (hok : s.MayMove mv) :
    (s.move mv).Flagged := by
  cases mv with
  | receive now r => exact receive_keeps h hok
  | send now owner threadId messageId previewText packetB64 p => exact sendMessage_keeps h hok
  | mutate mu allowBuffer => exact applyMutation_keeps mu allowBuffer h
  | recordMutation call hbase => exact recordMutation_keeps h hbase
  | deleteLocal threadId targetMessageId => exact deleteLocal_keeps threadId targetMessageId h

theorem flagged_withThreads (threads : OrdMap String ChatThread) :
    (withThreads threads : Store c).Flagged where
  sound := sound_empty
  complete := complete_empty
  exact _ _ hm := absurd hm not_mem_nil

/-- A message of the group `t1` that an account signed, under an id. -/
def signedBy (account messageId fingerprint : String) : Incoming where
  threadId := "t1"
  senderAccountId := account
  payload :=
    { kind := some messageKind
      senderAccountId := some account
      messageId := some messageId
      contentHash := some fingerprint }
  eventId := "e"
  mailboxId := "box"
  ciphertextB64 := ""
  previewText := fingerprint

/-- Mallory takes the id `m`; Bob signs two texts under it. -/
def takenByMallory : Store byCodePoint :=
  run move (withThreads groupThread)
    [.receive 1 (signedBy "mallory" "m" "F0"), .receive 2 (signedBy "bob" "m" "F1"),
      .receive 3 (signedBy "bob" "m" "F2")]

/-- The owner sends a text. -/
def ownSend (now : Int) : Move := .send now "me" "t1" "m" "one" "" (signedBy "me" "m" "F1").payload

/-- The owner sends a text, and another comes in that he signed elsewhere under its id. -/
def signedTwice : Store byCodePoint :=
  run move (withThreads groupThread)
    [ownSend 1, .receive 2 (signedBy "me" "m" "F2")]

end RezChat.Messages
