/-
The proof that a message was committed (`services/ServerMessagesService.js`, `handleCommitAck` and
`sweepPendingCommits`; `records/payloads/MessageCommitAckV1.js`, `originalMessageShapes.js`).

A signed message that was sent has a pending row, which is retried until the recipient's commit ack
comes. The ack is accepted if its signature covers all that it claims, and its signer speaks for
the account that it names. What it claims is compared with the row before it is verified; when it
was, the row with its message id is deleted. If the message was sent again meanwhile, that row is
another one, and the ack of the old message stops the retries of the new one
(`stale_ack_deletes`).

As long as the row that is deleted is the one that was read, a row is only deleted for an ack that
was verified and that names it, or because its fact is gone, and every other row comes due again
(`run_sound`).
-/
import RezChat.Delivery.Stranded

set_option autoImplicit false

namespace RezChat.Delivery

open Inbox (trim)
open Messages (ChatMessage ChatThread Collation StatusCall StatusWrite Store)
open Option OrdMap Service Phase List

/-! ## Verification -/

/-- What the signature of a commit ack covers. -/
structure CommitClaim where
  messageId : String
  messageFingerprint : String
  threadId : String
  recipientAccountId : String
  recipientDeviceId : String
  recipientAuthorityEpoch : Nat
  signerPublicKeyB64 : String
  committedAtMs : Nat

/-- `MessageCommitAckV1`, over the certificates `κ`. -/
structure SignedAck (κ : Type) where
  claim : CommitClaim
  recipientCertChain : List κ
  sig : String

/-- The cryptography, over the certificates `κ` and the revocation states `ρ`. What throws returns
nothing. -/
structure Verifier (κ ρ : Type) where
  accountIdentityPublicKeyB64 : κ → String
  deriveDeviceIdFromPublicKeyB64 : String → Option String
  deriveAccountIdFromPublicKey : String → Option String
  verify : String → CommitClaim → String → Option Bool
  verifyAccountAuthority : String → String → List κ → Int → Option ρ → Bool

variable {κ ρ : Type}

/-- `signableBytes`, as the record that they are made of. -/
def CommitClaim.signable (claim : CommitClaim) : CommitClaim :=
  { claim with
    messageId := trim claim.messageId
    messageFingerprint := trim claim.messageFingerprint
    threadId := trim claim.threadId
    recipientAccountId := trim claim.recipientAccountId
    recipientDeviceId := trim claim.recipientDeviceId
    signerPublicKeyB64 := trim claim.signerPublicKeyB64 }

/-- The key that the account is derived from, in `verifySignedAccountClaim`: the root of the chain,
whose grantee has to be the device, or the signer. -/
def Verifier.anchor (v : Verifier κ ρ) (signerPublicKeyB64 deviceId : String) :
    List κ → Option String
  | [] => some signerPublicKeyB64
  | root :: _ =>
    if trim (v.accountIdentityPublicKeyB64 root) = "" ∨ deviceId = "" then none
    else if v.deriveDeviceIdFromPublicKeyB64 signerPublicKeyB64 = some deviceId then
      some (trim (v.accountIdentityPublicKeyB64 root))
    else none

/-- `verifySignedAccountClaim`, of a commit ack. -/
def Verifier.verifySignedAccountClaim (v : Verifier κ ρ) (signable : CommitClaim)
    (sigB64 : String) (certChain : List κ) (nowMs : Int) (revocationState : Option ρ) : Bool :=
  match v.anchor signable.signerPublicKeyB64 signable.recipientDeviceId certChain with
  | none => false
  | some anchor =>
    decide (v.deriveAccountIdFromPublicKey anchor = some signable.recipientAccountId) &&
      decide (v.verify signable.signerPublicKeyB64 signable sigB64 = some true) &&
      v.verifyAccountAuthority anchor signable.signerPublicKeyB64 certChain nowMs revocationState

/-- `verifyCommitAckForAcceptance`. -/
def Verifier.verifyCommitAckForAcceptance (v : Verifier κ ρ) (signed : SignedAck κ) (nowMs : Int)
    (revocationState : Option ρ) : Bool :=
  if trim signed.claim.messageFingerprint = "" ∨ trim signed.sig = "" then false
  else v.verifySignedAccountClaim signed.claim.signable (trim signed.sig) signed.recipientCertChain
    nowMs revocationState

/-- What the runtime has to verify with: no cryptography, no source of revocations, or what the
source answered. -/
inductive AckSource (ρ : Type) where
  | noCrypto
  | noRevocations
  | established (revocationState : Option ρ)

/-- The steps of `handleCommitAck` from the cryptography to the verdict. An ack without a chain
carries nothing that could be revoked. -/
def Verifier.accepts (v : Verifier κ ρ) (nowMs : Int) (source : AckSource ρ)
    (signed : SignedAck κ) : Bool :=
  match source, signed.recipientCertChain with
  | .noCrypto, _ => false
  | .noRevocations, [] | .established _, [] => v.verifyCommitAckForAcceptance signed nowMs none
  | .noRevocations, _ :: _ => false
  | .established revocationState, _ :: _ =>
    v.verifyCommitAckForAcceptance signed nowMs revocationState

/-- The account of an ack is that of its anchor, whose authority the signer has, and the signature
covers the claim. -/
def Verifier.Vouches (v : Verifier κ ρ) (signed : SignedAck κ) : Prop :=
  ∃ anchor nowMs revocationState,
    v.deriveAccountIdFromPublicKey anchor = some signed.claim.signable.recipientAccountId ∧
    v.verify signed.claim.signable.signerPublicKeyB64 signed.claim.signable (trim signed.sig) =
      some true ∧
    v.verifyAccountAuthority anchor signed.claim.signable.signerPublicKeyB64
      signed.recipientCertChain nowMs revocationState = true

theorem Verifier.vouches_of_accepts {v : Verifier κ ρ} {nowMs : Int} {source : AckSource ρ}
    {signed : SignedAck κ} (h : v.accepts nowMs source signed = true) : v.Vouches signed := by
  have hverified : ∃ revocationState,
      v.verifyCommitAckForAcceptance signed nowMs revocationState = true := by
    unfold accepts at h
    split at h
    · exact absurd h Bool.false_ne_true
    · exact ⟨none, h⟩
    · exact ⟨none, h⟩
    · exact absurd h Bool.false_ne_true
    · exact ⟨_, h⟩
  obtain ⟨revocationState, hverified⟩ := hverified
  unfold verifyCommitAckForAcceptance at hverified
  split_ifs at hverified
  unfold verifySignedAccountClaim at hverified
  split at hverified
  · exact absurd hverified Bool.false_ne_true
  · rename_i anchor _
    rw [Bool.and_eq_true, Bool.and_eq_true] at hverified
    obtain ⟨⟨haccount, hsignature⟩, hauthority⟩ := hverified
    exact ⟨anchor, nowMs, revocationState, of_decide_eq_true haccount, of_decide_eq_true hsignature,
      hauthority⟩

/-- An ack that was accepted. -/
structure AcceptedAck (v : Verifier κ ρ) where
  signed : SignedAck κ
  nowMs : Int
  source : AckSource ρ
  accepted : v.accepts nowMs source signed = true

/-! ## The service and the acks that it accepted -/

/-- The handled ack is this one. -/
def SignedAck.IsOf (signed : SignedAck κ) (ack : CommitAck) : Prop :=
  signed.claim.messageId = ack.messageId ∧
    signed.claim.messageFingerprint = ack.messageFingerprint ∧
    signed.claim.threadId = ack.threadId ∧
    signed.claim.recipientAccountId = ack.recipientAccountId

instance (signed : SignedAck κ) (ack : CommitAck) : Decidable (signed.IsOf ack) :=
  inferInstanceAs (Decidable (_ ∧ _ ∧ _ ∧ _))

/-- The service, the acks that it accepted, and the greatest time that its clock has shown. No step
of the service reads the last two. -/
structure Acking (v : Verifier κ ρ) (c : Collation) where
  service : Service c
  accepted : List (AcceptedAck v)
  high : Int

/-- What happens: a verification has the ack and what there is to verify with, and anything else is
an event of the service. -/
inductive AckEvent (κ ρ : Type) where
  | verify (op : Nat) (signed : SignedAck κ) (source : AckSource ρ)
  | other (e : Event)

namespace Acking

variable {v : Verifier κ ρ} {c : Collation}

def fresh (v : Verifier κ ρ) (ownerAccountId : String) (store : Store c) : Acking v c :=
  ⟨Service.fresh ownerAccountId store, [], 0⟩

/-- The procedure `op` verifies its ack. -/
def verify (op : Nat) (signed : SignedAck κ) (source : AckSource ρ) (w : Acking v c) : Acking v c :=
  match w.service.ops.get? op with
  | some (.verifying ack _) =>
    if signed.IsOf ack then
      if h : v.accepts w.service.clock source signed = true then
        { w with
          service := w.service.step (.verify op true)
          accepted := ⟨signed, w.service.clock, source, h⟩ :: w.accepted }
      else { w with service := w.service.step (.verify op false) }
    else w
  | _ => w

def step (w : Acking v c) : AckEvent κ ρ → Acking v c
  | .verify op signed source => w.verify op signed source
  -- a verdict only comes from a verification
  | .other (.verify _ _) => w
  | .other (.tick clock dice) => { w with
      service := w.service.step (.tick clock (dice % 1000))
      high := max w.high clock }
  | .other e => { w with service := w.service.step e }

end Acking

/-! ## The law -/

/-- A legacy delivery ack. -/
def Phase.IsLegacyAck : Phase → Prop
  | .checkingCommit _ _ _ | .settling _ (.deliveryAck _) | .settled _ _ (.deliveryAck _) => True
  | _ => False

/-- A row of the same message, in the same thread and to the same recipient. -/
def PendingCommit.SameClaim (row row' : PendingCommit) : Prop :=
  row'.threadId = row.threadId ∧ row'.recipientAccountId = row.recipientAccountId

instance (row row' : PendingCommit) : Decidable (row.SameClaim row') :=
  inferInstanceAs (Decidable (_ ∧ _))

section Law

variable {v : Verifier κ ρ} {c : Collation}

/-- There is a row of the message, the thread and the recipient. -/
def Acking.Keeps (w : Acking v c) (messageId : String) (row : PendingCommit) : Prop :=
  ∃ row', w.service.commits.get? messageId = some row' ∧ row.SameClaim row'

/-- An ack that was accepted names the row, and the account of the row vouches for it. -/
def Acking.Proves (w : Acking v c) (messageId : String) (row : PendingCommit) : Prop :=
  ∃ a ∈ w.accepted, v.Vouches a.signed ∧ trim a.signed.claim.messageId = messageId ∧
    a.signed.claim.threadId = row.threadId ∧
    a.signed.claim.messageFingerprint = row.fingerprint ∧
    a.signed.claim.recipientAccountId = row.recipientAccountId

/-- The fact of the row is gone. -/
def Acking.Factless (w : Acking v c) (row : PendingCommit) : Prop :=
  w.service.store.facts.fact? (trim row.threadId) (trim row.fingerprint) = none

/-- A row that the step deletes was proved, or has no fact, and no legacy ack deletes one. -/
structure Acking.DeletesJustly (w : Acking v c) (e : AckEvent κ ρ) : Prop where
  justified : ∀ messageId row, w.service.commits.get? messageId = some row →
    ¬ (w.step e).Keeps messageId row → w.Proves messageId row ∨ w.Factless row
  legacy : ∀ i response p, e = .other (.advance i response) → w.service.ops.get? i = some p →
    p.IsLegacyAck → (w.step e).service.commits = w.service.commits

/-- The longest delay of `#commitRetryDelayMs`: the slow tail and a quarter. -/
def maxRetryDelayMs : Int := 25 * 60000

/-- Every row is due, at the latest, the longest delay after the greatest time so far. -/
def Acking.AllDue (w : Acking v c) : Prop :=
  ∀ messageId row, w.service.commits.get? messageId = some row →
    ∀ nowMs, w.high + maxRetryDelayMs ≤ nowMs → ¬ nowMs < row.nextRetryAtMs

/-- Where a row is to be deleted, the row that is there is the one that was read, and a fact that
was missing is still missing; where one is to be written, the row that is there is of the same
thread and recipient. -/
def Acking.Uncontested (w : Acking v c) : AckEvent κ ρ → Prop
  | .other (.advance i _) =>
    match w.service.ops.get? i with
    | some (.puttingCommit call recipientAccountId) =>
      ∀ row ∈ w.service.commits.get? call.messageId,
        row.threadId = call.threadId ∧ row.recipientAccountId = recipientAccountId
    | some (.rescheduling read _) =>
      ∀ row ∈ w.service.commits.get? read.messageId, read.SameClaim row
    | some (.consuming ack pending) =>
      ∀ row ∈ w.service.commits.get? (trim ack.messageId),
        pending.SameClaim row ∧ row.fingerprint = pending.fingerprint
    | some (.droppingCommit read _) =>
      ∀ row ∈ w.service.commits.get? (trim read.messageId),
        read.SameClaim row ∧ row.fingerprint = read.fingerprint ∧ w.Factless read
    | _ => True
  | _ => True

instance (w : Acking v c) (row : PendingCommit) : Decidable (w.Factless row) :=
  inferInstanceAs (Decidable (_ = none))

instance (w : Acking v c) (e : AckEvent κ ρ) : Decidable (w.Uncontested e) := by
  unfold Acking.Uncontested
  split
  · split <;> infer_instance
  · infer_instance

end Law

/-! ## Phases -/

namespace Phase

/-- The send that a phase belongs to. -/
def send? : Phase → Option SendCall
  | .signing call | .depositing call | .recordingFact call | .routing call | .delivering call _
  | .openingCommit call | .puttingCommit call _ | .settling _ (.send call _)
  | .settled _ _ (.send call _) => some call
  | _ => none

/-- The commit ack that is not accepted yet, or whose row is not deleted yet. -/
def ack? : Phase → Option CommitAck
  | .findingClaim ack | .findingFact ack | .verifying ack _ | .consuming ack _ => some ack
  | _ => none

/-- A phase of neither. -/
structure Idle (p : Phase) : Prop where
  send : p.send? = none
  ack : p.ack? = none

end Phase

theorem idle_returned : returned.Idle := ⟨rfl, rfl⟩

theorem idle_threw : threw.Idle := ⟨rfl, rfl⟩

theorem Phase.OfLoop.idle {p : Phase} (h : p.OfLoop) : p.Idle := by
  cases p with
  | settling call next =>
    cases next with
    | frame f n todo => exact ⟨rfl, rfl⟩
    | recovery r => exact ⟨rfl, rfl⟩
    | send call isGroup => exact absurd h id
    | deliveryAck acks => exact absurd h id
    | commitAck => exact absurd h id
  | returned => exact idle_returned
  | checkingCommit acks threadId messageId => exact ⟨rfl, rfl⟩
  | nextOfFrame f todo => exact ⟨rfl, rfl⟩
  | listingMessages r => exact ⟨rfl, rfl⟩
  | loadingThread r messageId => exact ⟨rfl, rfl⟩
  | findingOriginal row sweep => exact ⟨rfl, rfl⟩
  | _ => exact absurd h id

/-- How a phase follows on another. -/
inductive Phase.Follows (p : Phase) : Phase → Prop where
  | same : Follows p p
  | idle {p' : Phase} (h : p'.Idle) : Follows p p'
  | send {p' : Phase} {call : SendCall} (h : p.send? = some call) (h' : p'.send? = some call)
      (hack : p'.ack? = none) : Follows p p'
  | findingFact {ack : CommitAck} (h : p.ack? = some ack) : Follows p (.findingFact ack)
  | verifying {ack : CommitAck} {pending : Option PendingCommit} (h : p.ack? = some ack)
      (hanswers : ∀ row, pending = some row → answers ack row = true) :
      Follows p (.verifying ack pending)

/-! ## Rows -/

/-- What a turn of a procedure does to the rows. -/
inductive RowChange {c : Collation} (p : Phase) (w : Service c) :
    OrdMap String PendingCommit → Prop where
  | none : RowChange p w w.commits
  | opens (call : SendCall) (recipientAccountId : String)
      (hphase : p = .puttingCommit call recipientAccountId) :
      RowChange p w (w.commits.set call.messageId ⟨call.messageId, call.threadId, call.fingerprint,
        recipientAccountId, call.nowMs, 0, call.nowMs + commitRetryDelayMs w.dice 0, .none⟩)
  | reschedules (row : PendingCommit) (sweep : Sweep) (hphase : p = .rescheduling row sweep) :
      RowChange p w (w.commits.set row.messageId { row with
        attempts := row.attempts + 1
        lastAttemptAtMs := some w.clock
        nextRetryAtMs := w.clock + commitRetryDelayMs w.dice (row.attempts + 1) })
  | consumes (ack : CommitAck) (pending : PendingCommit) (hphase : p = .consuming ack pending) :
      RowChange p w (w.commits.delete (trim ack.messageId))
  | drops (row : PendingCommit) (sweep : Sweep) (hphase : p = .droppingCommit row sweep) :
      RowChange p w (w.commits.delete (trim row.messageId))

/-- The rows, the clock, the dice and the procedures are as they were. -/
structure Still {c : Collation} (w w' : Service c) : Prop where
  commits : w'.commits = w.commits
  clock : w'.clock = w.clock
  dice : w'.dice = w.dice
  ops : w'.ops = w.ops

section Rows

variable {c : Collation} {w : Service c}

theorem Still.refl (w : Service c) : Still w w := ⟨rfl, rfl, rfl, rfl⟩

theorem still_withMemory (m : Memory) (w : Service c) : Still w (w.withMemory m) :=
  ⟨rfl, rfl, rfl, rfl⟩

theorem still_rewrite (store : Store c) (w : Service c) : Still w (w.rewrite store) :=
  ⟨rfl, rfl, rfl, rfl⟩

theorem still_deposit (i : Nat) (call : SendCall) (w : Service c) :
    Still w (w.deposit i call) := by
  unfold deposit
  split <;> exact ⟨rfl, rfl, rfl, rfl⟩

theorem still_recordFact (call : SendCall) (w : Service c) : Still w (w.recordFact call) := by
  unfold recordFact
  split_ifs
  · exact Still.refl w
  · exact still_rewrite _ w

theorem still_proceed (call : StatusCall) (write : StatusWrite) (next : Next) (w : Service c) :
    Still w ((w.emit call write).proceed call next).2 := by
  cases next <;> exact ⟨rfl, rfl, rfl, rfl⟩

theorem follows_proceed (call : StatusCall) (write : StatusWrite) (next : Next) (w : Service c) :
    (settled call write next).Follows (w.proceed call next).1 := by
  cases next with
  | send send isGroup =>
    unfold proceed
    dsimp only
    split_ifs
    · exact .send rfl rfl rfl
    · exact .idle idle_returned
  | deliveryAck acks => exact .idle (ofLoop_nextAck _ _ _ _).idle
  | commitAck => exact .idle idle_returned
  | frame f n todo => exact .idle ⟨rfl, rfl⟩
  | recovery r => exact .idle (ofLoop_recoverItems _ _ _ _ _ _).idle

/-- What a turn does to the rows, with the phase that follows. -/
structure Turns (p : Phase) (w : Service c) (r : Phase × Service c) : Prop where
  follows : p.Follows r.1
  rows : RowChange p w r.2.commits
  clock : r.2.clock = w.clock
  dice : r.2.dice = w.dice
  ops : r.2.ops = w.ops

theorem turns_still {p p' : Phase} {w' : Service c} (h : p.Follows p') (hstill : Still w w') :
    Turns p w (p', w') := by
  refine ⟨h, ?_, hstill.clock, hstill.dice, hstill.ops⟩
  show RowChange p w w'.commits
  rw [hstill.commits]
  exact .none

theorem turns_idle {p p' : Phase} {w' : Service c} (h : p'.Idle)
    (hstill : Still w w' := by exact ⟨rfl, rfl, rfl, rfl⟩) : Turns p w (p', w') :=
  turns_still (.idle h) hstill

theorem turns_loop {p : Phase} {r : Phase × Memory} (h : r.1.OfLoop) :
    Turns p w (within r w) := turns_idle h.idle

theorem still_factRecorded (response : Response) (call : SendCall) (w : Service c) :
    Still w (match response with
      | .ok | .throwsLate => w.recordFact call
      | .throws => w) := by
  cases response with
  | ok => exact still_recordFact call w
  | throws => exact Still.refl w
  | throwsLate => exact still_recordFact call w

/-- **A turn**, as far as the rows go. -/
theorem turns_advance (i : Nat) (response : Response) (p : Phase) (w : Service c) :
    Turns p w (advance i response p w) := by
  cases p with
  | signing call =>
    cases response with
    | ok => exact turns_still (.send rfl rfl rfl) ⟨rfl, rfl, rfl, rfl⟩
    | throws => exact turns_idle idle_threw
    | throwsLate => exact turns_idle idle_threw
  | depositing call =>
    cases response with
    | ok => exact turns_still (.send rfl rfl rfl) (still_deposit i call w)
    | throws => exact turns_still (.send rfl rfl rfl) ⟨rfl, rfl, rfl, rfl⟩
    | throwsLate => exact turns_still (.send rfl rfl rfl) (still_deposit i call w)
  | recordingFact call =>
    have hstill := still_factRecorded response call w
    unfold advance
    dsimp only
    split_ifs
    · exact turns_still (.send rfl rfl rfl) hstill
    · exact turns_still (.send rfl rfl rfl) ⟨hstill.commits, hstill.clock, hstill.dice, hstill.ops⟩
  | routing call => cases response <;> exact turns_still (.send rfl rfl rfl) ⟨rfl, rfl, rfl, rfl⟩
  | delivering call thread => exact turns_still .same ⟨rfl, rfl, rfl, rfl⟩
  | openingCommit call =>
    cases response with
    | ok =>
      unfold advance
      dsimp only
      split
      · exact turns_idle idle_returned
      · split_ifs
        · exact turns_idle idle_returned
        · exact turns_still (.send rfl rfl rfl) ⟨rfl, rfl, rfl, rfl⟩
    | throws => exact turns_idle idle_returned
    | throwsLate => exact turns_idle idle_returned
  | puttingCommit call recipientAccountId =>
    cases response with
    | ok => exact ⟨.idle idle_returned, .opens call recipientAccountId rfl, rfl, rfl, rfl⟩
    | throws => exact turns_idle idle_returned
    | throwsLate => exact ⟨.idle idle_returned, .opens call recipientAccountId rfl, rfl, rfl, rfl⟩
  | checkingCommit acks threadId messageId =>
    cases response with
    | ok =>
      unfold advance
      dsimp only
      split
      · exact turns_still (.idle (ofLoop_nextAck _ _ _ _).idle) ⟨rfl, rfl, rfl, rfl⟩
      · exact turns_still (.idle ⟨rfl, rfl⟩) ⟨rfl, rfl, rfl, rfl⟩
    | throws => exact turns_idle idle_threw
    | throwsLate => exact turns_idle idle_threw
  | findingClaim ack =>
    cases response with
    | ok =>
      unfold advance
      dsimp only
      split
      · rename_i pending hpending
        by_cases hanswers : answers ack pending = true
        · rw [if_pos hanswers]
          refine turns_still (.verifying rfl fun row hrow => ?_) ⟨rfl, rfl, rfl, rfl⟩
          rw [← some_inj.1 hrow]
          exact hanswers
        · rw [if_neg hanswers]
          exact turns_idle idle_returned
      · exact turns_still (.findingFact rfl) ⟨rfl, rfl, rfl, rfl⟩
    | throws => exact turns_idle idle_threw
    | throwsLate => exact turns_idle idle_threw
  | findingFact ack =>
    cases response with
    | ok =>
      unfold advance
      dsimp only
      split_ifs
      · exact turns_still (.verifying rfl fun row hrow => by cases hrow) ⟨rfl, rfl, rfl, rfl⟩
      · exact turns_idle idle_returned
    | throws => exact turns_idle idle_threw
    | throwsLate => exact turns_idle idle_threw
  | verifying ack pending =>
    cases response with
    | ok => exact turns_still .same ⟨rfl, rfl, rfl, rfl⟩
    | throws => exact turns_idle idle_threw
    | throwsLate => exact turns_idle idle_threw
  | consuming ack pending =>
    cases response with
    | ok => exact ⟨.idle ⟨rfl, rfl⟩, .consumes ack pending rfl, rfl, rfl, rfl⟩
    | throws => exact turns_idle idle_threw
    | throwsLate => exact ⟨.idle idle_threw, .consumes ack pending rfl, rfl, rfl, rfl⟩
  | findingThread ack threadId =>
    cases response with
    | ok =>
      unfold advance
      dsimp only
      split
      · exact turns_idle idle_returned
      · split_ifs
        · exact turns_idle idle_returned
        · exact turns_still (.idle ⟨rfl, rfl⟩) ⟨rfl, rfl, rfl, rfl⟩
    | throws => exact turns_idle idle_returned
    | throwsLate => exact turns_idle idle_returned
  | nextOfFrame f todo => exact turns_loop (ofLoop_applyFrame f todo _)
  | listingThreads =>
    cases response with
    | ok => exact turns_still (.idle (ofLoop_nextThread _ _).idle) ⟨rfl, rfl, rfl, rfl⟩
    | throws => exact turns_idle idle_threw
    | throwsLate => exact turns_idle idle_threw
  | listingMessages r =>
    cases response with
    | ok => exact turns_loop (ofLoop_recoverItems _ _ _ _ _ _)
    | throws => exact turns_still (.idle (ofLoop_nextThread _ _).idle) ⟨rfl, rfl, rfl, rfl⟩
    | throwsLate => exact turns_still (.idle (ofLoop_nextThread _ _).idle) ⟨rfl, rfl, rfl, rfl⟩
  | loadingThread r messageId => exact turns_loop (ofLoop_recoverItems _ _ _ _ _ _)
  | listingCommits force =>
    cases response with
    | ok => exact turns_loop (ofLoop_nextRetry _ _ _ _)
    | throws => exact turns_idle idle_threw
    | throwsLate => exact turns_idle idle_threw
  | findingOriginal row sweep =>
    cases response with
    | ok =>
      unfold advance
      dsimp only
      split
      · exact turns_still (.idle ⟨rfl, rfl⟩) ⟨rfl, rfl, rfl, rfl⟩
      · exact turns_still (.idle ⟨rfl, rfl⟩) ⟨rfl, rfl, rfl, rfl⟩
    | throws => exact turns_loop (ofLoop_nextRetry _ _ _ _)
    | throwsLate => exact turns_loop (ofLoop_nextRetry _ _ _ _)
  | droppingCommit row sweep =>
    have hnext := (ofLoop_nextRetry sweep.force sweep.nowMs w.memory sweep.todo).idle
    cases response with
    | ok => exact ⟨.idle hnext, .drops row sweep rfl, rfl, rfl, rfl⟩
    | throws => exact turns_loop (ofLoop_nextRetry _ _ _ _)
    | throwsLate => exact ⟨.idle hnext, .drops row sweep rfl, rfl, rfl, rfl⟩
  | rescheduling row sweep =>
    have hnext := (ofLoop_nextRetry sweep.force sweep.nowMs w.memory sweep.todo).idle
    cases response with
    | ok => exact ⟨.idle ⟨rfl, rfl⟩, .reschedules row sweep rfl, rfl, rfl, rfl⟩
    | throws => exact turns_loop (ofLoop_nextRetry _ _ _ _)
    | throwsLate => exact ⟨.idle hnext, .reschedules row sweep rfl, rfl, rfl, rfl⟩
  | redelivering row sweep => exact turns_loop (ofLoop_nextRetry _ _ _ _)
  | settling call next =>
    have hstill : Still w (advance i response (.settling call next) w).2 := by
      unfold advance
      cases response with
      | ok => dsimp only; split_ifs <;> exact ⟨rfl, rfl, rfl, rfl⟩
      | throws => exact ⟨rfl, rfl, rfl, rfl⟩
      | throwsLate => dsimp only; split_ifs <;> exact ⟨rfl, rfl, rfl, rfl⟩
    have hphase : (settling call next).Follows
        (advance i response (.settling call next) w).1 := by
      obtain ⟨write, hsettled, -⟩ := settle_cases i response call next w
      rw [hsettled]
      cases next with
      | send send isGroup => exact .send rfl rfl rfl
      | deliveryAck acks => exact .idle ⟨rfl, rfl⟩
      | commitAck => exact .idle ⟨rfl, rfl⟩
      | frame f n todo => exact .idle ⟨rfl, rfl⟩
      | recovery r => exact .idle ⟨rfl, rfl⟩
    exact turns_still hphase hstill
  | settled call write next =>
    exact turns_still (follows_proceed call write next _) (still_proceed call write next w)
  | returned => exact turns_still .same ⟨rfl, rfl, rfl, rfl⟩
  | threw => exact turns_still .same ⟨rfl, rfl, rfl, rfl⟩

theorem follows_deliver (i : Nat) (parts : DeliveryParts) (p : Phase) (w : Service c) :
    p.Follows (deliver i parts p w).1 ∧ Still w (deliver i parts p w).2 := by
  cases p with
  | delivering call thread =>
    unfold deliver
    dsimp only
    split
    · exact ⟨.idle idle_threw, ⟨rfl, rfl, rfl, rfl⟩⟩
    · exact ⟨.send rfl rfl rfl, ⟨rfl, rfl, rfl, rfl⟩⟩
  | _ => exact ⟨.same, Still.refl w⟩

/-- A phase that a procedure begins with. -/
def Phase.Begins (clock : Int) (p : Phase) : Prop :=
  p.Idle ∨ (∃ call, p.send? = some call ∧ call.nowMs = clock ∧ p.ack? = none) ∨
    ∃ ack, p = .findingClaim ack ∧ ack.recipientAccountId = ack.authedSender

/-- What a step is, as far as the rows go. -/
inductive Rowed (w : Service c) (e : Event) (w' : Service c) : Prop where
  | turn (i : Nat) (response : Response) (p : Phase) (r : Phase × Service c)
      (hevent : e = .advance i response) (hget : w.ops.get? i = some p) (hturns : Turns p w r)
      (heq : w' = put i r)
  | delivers (i : Nat) (p : Phase) (r : Phase × Service c) (hget : w.ops.get? i = some p)
      (hfollows : p.Follows r.1) (hstill : Still w r.2) (heq : w' = put i r)
  | starts (r : Phase × Service c) (hbegins : r.1.Begins w.clock) (hstill : Still w r.2)
      (heq : w' = start r)
  | rests (hops : ∀ i p, w'.ops.get? i = some p → w.ops.get? i = some p)
      (hcommits : w'.commits = w.commits) (hclock : w'.clock = w.clock) (hdice : w'.dice = w.dice)

theorem rests_of_still {e : Event} {w' : Service c} (h : Still w w') : Rowed w e w' :=
  .rests (fun i p hp => by rw [← h.ops]; exact hp) h.commits h.clock h.dice

/-- The clock does not tick, and nothing is verified. -/
def Event.Plain : Event → Prop
  | .tick _ _ | .verify _ _ => False
  | _ => True

/-- **A step**, as far as the rows go. -/
theorem rowed_step (w : Service c) (e : Event) (he : e.Plain) : Rowed w e (w.step e) := by
  cases e with
  | send call =>
    show Rowed w _ (w.beginSend call)
    unfold beginSend
    dsimp only
    split_ifs
    · exact rests_of_still (Still.refl w)
    · exact .starts (.signing _, _) (.inr (.inl ⟨_, rfl, rfl, rfl⟩)) (still_withMemory _ w) rfl
    · exact .starts (.depositing _, _) (.inr (.inl ⟨_, rfl, rfl, rfl⟩)) (still_withMemory _ w) rfl
  | deliveryAck threadId messageIds =>
    exact .starts _ (.inl (ofLoop_nextAck _ _ _ _).idle) (Still.refl w) rfl
  | commitAck ack =>
    show Rowed w _ (w.beginCommitAck ack)
    unfold beginCommitAck
    dsimp only
    split_ifs with hforeign
    · exact rests_of_still (Still.refl w)
    · refine .starts (.findingClaim _, w) (.inr (.inr ⟨_, rfl, ?_⟩)) (Still.refl w) rfl
      by_contra hne
      exact hforeign (.inr hne)
  | outboundStatus deliverInboxId delivered =>
    show Rowed w _ (w.beginFrame deliverInboxId delivered)
    unfold beginFrame
    split
    · exact rests_of_still (Still.refl w)
    · exact rests_of_still (still_withMemory _ w)
    · exact .starts _ (.inl (ofLoop_applyFrame _ _ _).idle) (still_withMemory _ w) rfl
  | recover => exact .starts (.listingThreads, w) (.inl ⟨rfl, rfl⟩) (Still.refl w) rfl
  | sweep force =>
    show Rowed w _ (if _ then _ else _)
    split_ifs
    · exact rests_of_still (Still.refl w)
    · exact .starts (.listingCommits force, _) (.inl ⟨rfl, rfl⟩) (still_withMemory _ w) rfl
  | stop => exact rests_of_still (still_withMemory _ w)
  | advance i response =>
    show Rowed w _ (w.resume i _)
    unfold resume
    cases hget : w.ops.get? i with
    | none => exact rests_of_still (Still.refl w)
    | some p => exact .turn i response p _ rfl hget (turns_advance i response p w) rfl
  | deliver i parts =>
    show Rowed w _ (w.resume i _)
    unfold resume
    cases hget : w.ops.get? i with
    | none => exact rests_of_still (Still.refl w)
    | some p =>
      obtain ⟨hfollows, hstill⟩ := follows_deliver i parts p w
      exact .delivers i p _ hget hfollows hstill rfl
  | verify i accepted => exact absurd he id
  | store op => exact rests_of_still (still_rewrite _ w)
  | storeStatus call => exact rests_of_still (still_rewrite _ w)
  | deleteThread threadId => exact rests_of_still (still_rewrite _ w)
  | tick clock dice => exact absurd he id
  | crash => exact .rests (fun i p hp => absurd hp (by simp [step])) rfl rfl rfl

end Rows

/-! ## What holds in every run -/

/-- The row that a commit ack was compared with. -/
def Phase.compared? : Phase → Option (CommitAck × PendingCommit)
  | .verifying ack (some row) | .consuming ack row => some (ack, row)
  | _ => none

/-- What a phase relies on: the send is not later than the greatest time, the ack is of the account
that sent it and names the row that it was compared with, and a row is deleted for an ack that was
accepted. -/
structure Phase.Sound {v : Verifier κ ρ} (accepted : List (AcceptedAck v)) (high : Int) (p : Phase) :
    Prop where
  sent : ∀ call, p.send? = some call → call.nowMs ≤ high
  authed : ∀ ack, p.ack? = some ack → ack.recipientAccountId = ack.authedSender
  answers : ∀ ack row, p.compared? = some (ack, row) → answers ack row = true
  proved : ∀ ack row, p = .consuming ack row → ∃ a ∈ accepted, a.signed.IsOf ack

section Sound

variable {v : Verifier κ ρ} {accepted : List (AcceptedAck v)} {high : Int} {p p' : Phase}

/-- The ack of a row that was compared. -/
theorem Phase.ack_of_compared {ack : CommitAck} {row : PendingCommit}
    (h : p.compared? = some (ack, row)) : p.ack? = some ack := by
  cases p with
  | verifying ack' pending =>
    cases pending with
    | none => exact nomatch h
    | some row' =>
      rw [compared?, some_inj, Prod.mk.injEq] at h
      rw [ack?, h.1]
  | consuming ack' row' =>
    rw [compared?, some_inj, Prod.mk.injEq] at h
    rw [ack?, h.1]
  | _ => exact nomatch h

/-- A phase with no ack relies on the send alone. -/
theorem Phase.Sound.of_send (hack : p.ack? = none) (h : ∀ call, p.send? = some call → call.nowMs ≤ high) :
    p.Sound accepted high := by
  refine ⟨h, fun ack hsome => ?_, fun ack row hcompared => ?_, fun ack row hphase => ?_⟩
  · rw [hack] at hsome
    exact nomatch hsome
  · rw [ack_of_compared hcompared] at hack
    exact nomatch hack
  · rw [hphase] at hack
    exact nomatch hack

theorem Phase.Idle.sound (h : p.Idle) : p.Sound accepted high :=
  .of_send h.ack fun call hsome => by
    rw [h.send] at hsome
    exact nomatch hsome

theorem Phase.Follows.sound (h : p.Follows p') (hp : p.Sound accepted high) :
    p'.Sound accepted high := by
  cases h with
  | same => exact hp
  | idle hidle => exact hidle.sound
  | send hsend hsend' hack =>
    refine .of_send hack fun call hsome => ?_
    rw [hsend', ← hsend] at hsome
    exact hp.sent call hsome
  | findingFact hack =>
    refine ⟨fun call hsome => (nomatch hsome), fun ack' hsome => ?_,
      fun ack' row hsome => (nomatch hsome), fun ack' row hphase => (nomatch hphase)⟩
    exact hp.authed ack' (hack.trans hsome)
  | @verifying ack pending hack hanswers =>
    refine ⟨fun call hsome => (nomatch hsome), fun ack' hsome => hp.authed ack' (hack.trans hsome),
      fun ack' row hsome => ?_, fun ack' row hphase => (nomatch hphase)⟩
    cases pending with
    | none => exact nomatch hsome
    | some row' =>
      rw [compared?, some_inj, Prod.mk.injEq] at hsome
      rw [← hsome.1, ← hsome.2]
      exact hanswers row' rfl

theorem Phase.Begins.sound {clock : Int} (h : p.Begins clock) (hclock : clock ≤ high) :
    p.Sound accepted high := by
  rcases h with hidle | ⟨call, hsend, hnow, hack⟩ | ⟨ack, rfl, hauthed⟩
  · exact hidle.sound
  · refine .of_send hack fun call' hsome => ?_
    rw [hsend, some_inj] at hsome
    rw [← hsome, hnow]
    exact hclock
  · refine ⟨fun call hsome => (nomatch hsome), fun ack' hsome => ?_,
      fun ack' row hsome => (nomatch hsome), fun ack' row hphase => (nomatch hphase)⟩
    rw [ack?, some_inj] at hsome
    rw [← hsome]
    exact hauthed

/-- More acks were accepted, and it is later. -/
theorem Phase.Sound.mono {accepted' : List (AcceptedAck v)} {high' : Int} (h : p.Sound accepted high)
    (haccepted : accepted ⊆ accepted') (hhigh : high ≤ high') : p.Sound accepted' high' := by
  refine ⟨fun call hsome => (h.sent call hsome).trans hhigh, h.authed, h.answers,
    fun ack row hphase => ?_⟩
  obtain ⟨a, ha, hof⟩ := h.proved ack row hphase
  exact ⟨a, haccepted ha, hof⟩

end Sound

/-- With dice below a thousand no delay is longer than the longest. -/
theorem commitRetryDelayMs_le {dice : Nat} (hdice : dice < 1000) (attempts : Nat) :
    commitRetryDelayMs dice attempts ≤ maxRetryDelayMs := by
  have hbase : 0 ≤ (commitRetryScheduleMs[attempts]?).getD (20 * 60000) ∧
      (commitRetryScheduleMs[attempts]?).getD (20 * 60000) ≤ 20 * 60000 := by
    match attempts with
    | 0 | 1 | 2 | 3 | 4 | 5 => decide
    | n + 6 =>
      have htail : (commitRetryScheduleMs[n + 6]?).getD (20 * 60000) = 20 * 60000 := rfl
      rw [htail]
      decide
  obtain ⟨hnonneg, hle⟩ := hbase
  have hproduct : (commitRetryScheduleMs[attempts]?).getD (20 * 60000) * (dice : Int) ≤
      20 * 60000 * 1000 := by
    refine Int.mul_le_mul hle ?_ (Int.natCast_nonneg dice) (by decide)
    omega
  unfold commitRetryDelayMs maxRetryDelayMs
  dsimp only
  omega

namespace Acking

variable {v : Verifier κ ρ} {c : Collation} {w : Acking v c}

/-- What holds after every step. -/
structure Sound (w : Acking v c) : Prop where
  phases : ∀ i p, w.service.ops.get? i = some p → p.Sound w.accepted w.high
  clock : w.service.clock ≤ w.high
  dice : w.service.dice < 1000
  due : ∀ messageId row, w.service.commits.get? messageId = some row →
    row.nextRetryAtMs ≤ w.high + maxRetryDelayMs

theorem sound_fresh (v : Verifier κ ρ) (ownerAccountId : String) (store : Store c) :
    (fresh v ownerAccountId store).Sound :=
  ⟨fun i p h => absurd h (by simp [fresh, Service.fresh]), le_refl _, Nat.zero_lt_succ _,
    fun messageId row h => absurd h (by simp [fresh, Service.fresh])⟩

theorem Sound.allDue (h : w.Sound) : w.AllDue := by
  intro messageId row hrow nowMs hnow
  have hdue := h.due messageId row hrow
  omega

/-- The rows after a turn are due like those before it. -/
theorem Sound.due_of_rowChange (h : w.Sound) {p : Phase} (hp : p.Sound w.accepted w.high)
    {commits : OrdMap String PendingCommit} (hrows : RowChange p w.service commits) :
    ∀ messageId row, commits.get? messageId = some row →
      row.nextRetryAtMs ≤ w.high + maxRetryDelayMs := by
  have hdelay := commitRetryDelayMs_le h.dice
  intro messageId row hrow
  cases hrows with
  | none => exact h.due messageId row hrow
  | opens call recipientAccountId hphase =>
    rw [get?_set] at hrow
    by_cases hkey : messageId = call.messageId
    · rw [if_pos hkey, some_inj] at hrow
      rw [← hrow]
      have hsent := hp.sent call (by rw [hphase]; rfl)
      have hdelay := hdelay 0
      show call.nowMs + commitRetryDelayMs w.service.dice 0 ≤ _
      omega
    · rw [if_neg hkey] at hrow
      exact h.due messageId row hrow
  | reschedules read sweep hphase =>
    rw [get?_set] at hrow
    by_cases hkey : messageId = read.messageId
    · rw [if_pos hkey, some_inj] at hrow
      rw [← hrow]
      have hclock := h.clock
      have hdelay := hdelay (read.attempts + 1)
      show w.service.clock + commitRetryDelayMs w.service.dice (read.attempts + 1) ≤ _
      omega
    · rw [if_neg hkey] at hrow
      exact h.due messageId row hrow
  | consumes ack pending hphase =>
    rw [get?_delete] at hrow
    split_ifs at hrow
    exact h.due messageId row hrow
  | drops read sweep hphase =>
    rw [get?_delete] at hrow
    split_ifs at hrow
    exact h.due messageId row hrow

/-- A procedure comes to a phase. -/
theorem Sound.put {accepted : List (AcceptedAck v)} (h : w.Sound) (haccepted : w.accepted ⊆ accepted)
    {i : Nat} {r : Phase × Service c} (hphase : r.1.Sound accepted w.high)
    (hops : r.2.ops = w.service.ops) (hclock : r.2.clock = w.service.clock)
    (hdice : r.2.dice = w.service.dice)
    (hdue : ∀ messageId row, r.2.commits.get? messageId = some row →
      row.nextRetryAtMs ≤ w.high + maxRetryDelayMs) :
    Sound { w with service := put i r, accepted := accepted } := by
  refine ⟨fun j p hget => ?_, ?_, ?_, hdue⟩
  · have hset : (r.2.ops.set i r.1).get? j = some p := hget
    rw [get?_set, hops] at hset
    by_cases hij : j = i
    · rw [if_pos hij, some_inj] at hset
      rw [← hset]
      exact hphase
    · rw [if_neg hij] at hset
      exact (h.phases j p hset).mono haccepted (le_refl _)
  · show r.2.clock ≤ w.high
    rw [hclock]
    exact h.clock
  · show r.2.dice < 1000
    rw [hdice]
    exact h.dice

/-- A step of the service. -/
theorem Sound.service (h : w.Sound) {e : Event} (he : e.Plain) :
    Sound { w with service := w.service.step e } := by
  cases rowed_step w.service e he with
  | turn i response p r hevent hget hturns heq =>
    have hp := h.phases i p hget
    rw [heq]
    exact h.put (Subset.refl _) (hturns.follows.sound hp) hturns.ops hturns.clock
      hturns.dice (h.due_of_rowChange hp hturns.rows)
  | delivers i p r hget hfollows hstill heq =>
    rw [heq]
    refine h.put (Subset.refl _) (hfollows.sound (h.phases i p hget)) hstill.ops
      hstill.clock hstill.dice ?_
    rw [hstill.commits]
    exact h.due
  | starts r hbegins hstill heq =>
    have hput : Sound { w with service := Service.put r.2.begun r } := by
      refine h.put (Subset.refl _) (hbegins.sound h.clock) hstill.ops hstill.clock hstill.dice ?_
      rw [hstill.commits]
      exact h.due
    rw [heq]
    exact ⟨hput.phases, hput.clock, hput.dice, hput.due⟩
  | rests hops hcommits hclock hdice =>
    refine ⟨fun i p hget => h.phases i p (hops i p hget), ?_, ?_, fun messageId row hrow => ?_⟩
    · show (w.service.step e).clock ≤ w.high
      rw [hclock]
      exact h.clock
    · show (w.service.step e).dice < 1000
      rw [hdice]
      exact h.dice
    · have hrow : (w.service.step e).commits.get? messageId = some row := hrow
      rw [hcommits] at hrow
      exact h.due messageId row hrow

/-- An ack that is verified is accepted, or its procedure ends. -/
theorem Sound.verify (h : w.Sound) (op : Nat) (signed : SignedAck κ) (source : AckSource ρ) :
    (w.verify op signed source).Sound := by
  unfold Acking.verify
  split
  · rename_i ack pending hget
    have hp := h.phases op _ hget
    have hstep : ∀ accepted, w.service.step (.verify op accepted) =
        Service.put op (Service.verify accepted (.verifying ack pending) w.service) := by
      intro accepted
      show w.service.resume op _ = _
      unfold resume
      rw [hget]
    split_ifs with hof haccepts
    · rw [hstep]
      cases pending with
      | none =>
        refine h.put (subset_cons_self _ _) ?_ rfl rfl rfl h.due
        exact Idle.sound ⟨rfl, rfl⟩
      | some row =>
        refine h.put (subset_cons_self _ _) ?_ rfl rfl rfl h.due
        -- the row that is to be deleted is the one that the ack was compared with
        refine ⟨fun call hsome => (nomatch hsome), hp.authed, hp.answers, fun ack' row' hphase => ?_⟩
        have hack : ack = ack' := (consuming.inj hphase).1
        rw [← hack]
        exact ⟨_, mem_cons_self, hof⟩
    · rw [hstep]
      exact h.put (Subset.refl _) idle_returned.sound rfl rfl rfl h.due
    · exact h
  · exact h

/-- **A step.** -/
theorem Sound.step (h : w.Sound) (e : AckEvent κ ρ) : (w.step e).Sound := by
  cases e with
  | verify op signed source => exact h.verify op signed source
  | other e =>
    cases e with
    | verify op accepted => exact h
    | tick clock dice =>
      have hhigh : w.high ≤ max w.high clock := le_max_left _ _
      refine ⟨fun i p hget => (h.phases i p hget).mono (Subset.refl _) hhigh, le_max_right _ _,
        Nat.mod_lt _ (by decide), fun messageId row hrow => ?_⟩
      have hdue := h.due messageId row hrow
      show row.nextRetryAtMs ≤ max w.high clock + maxRetryDelayMs
      omega
    | _ => exact h.service trivial

theorem keeps_of_commits {w' : Acking v c} {messageId : String} {row : PendingCommit}
    (hcommits : w'.service.commits = w.service.commits)
    (hrow : w.service.commits.get? messageId = some row) : w'.Keeps messageId row :=
  ⟨row, by rw [hcommits]; exact hrow, rfl, rfl⟩

theorem service_step {e : Event} (he : e.Plain) :
    (w.step (.other e)).service = w.service.step e := by
  cases e with
  | tick clock dice => exact absurd he id
  | verify op accepted => exact absurd he id
  | _ => simp only [step]

/-- The rows are as they were, but after a turn. -/
theorem commits_step (w : Acking v c) (e : AckEvent κ ρ) :
    (w.step e).service.commits = w.service.commits ∨
      ∃ i response p, e = .other (.advance i response) ∧ w.service.ops.get? i = some p ∧
        RowChange p w.service (w.step e).service.commits := by
  have hplain : ∀ e : Event, e.Plain → (w.service.step e).commits = w.service.commits ∨
      ∃ i response p, e = .advance i response ∧ w.service.ops.get? i = some p ∧
        RowChange p w.service (w.service.step e).commits := by
    intro e he
    cases rowed_step w.service e he with
    | turn i response p r hevent hget hturns heq =>
      rw [heq]
      exact .inr ⟨i, response, p, hevent, hget, hturns.rows⟩
    | delivers i p r hget hfollows hstill heq =>
      rw [heq]
      exact .inl hstill.commits
    | starts r hbegins hstill heq =>
      rw [heq]
      exact .inl hstill.commits
    | rests hops hcommits hclock hdice => exact .inl hcommits
  cases e with
  | verify op signed source =>
    refine .inl ?_
    show (w.verify op signed source).service.commits = _
    unfold Acking.verify
    split
    · rename_i ack pending hget
      have hstep : ∀ accepted, (w.service.step (.verify op accepted)).commits = w.service.commits := by
        intro accepted
        show (w.service.resume op _).commits = _
        unfold resume
        rw [hget]
        cases accepted <;> cases pending <;> rfl
      split_ifs
      · exact hstep true
      · exact hstep false
      · rfl
    · rfl
  | other e =>
    by_cases he : e.Plain
    · rw [service_step he]
      rcases hplain e he with hcommits | ⟨i, response, p, hevent, hget, hrows⟩
      · exact .inl hcommits
      · exact .inr ⟨i, response, p, congrArg AckEvent.other hevent, hget, hrows⟩
    · cases e with
      | verify op accepted => exact .inl rfl
      | tick clock dice => exact .inl rfl
      | _ => exact absurd trivial he

/-- What an accepted ack says of the row that it was compared with. -/
theorem Sound.proves (h : w.Sound) {i : Nat} {ack : CommitAck} {pending row : PendingCommit}
    (hget : w.service.ops.get? i = some (.consuming ack pending)) (hclaim : pending.SameClaim row)
    (hfingerprint : row.fingerprint = pending.fingerprint) : w.Proves (trim ack.messageId) row := by
  have hp := h.phases i _ hget
  obtain ⟨a, ha, hmessage, hfact, hthread, hrecipient⟩ := hp.proved ack pending rfl
  have hanswers := of_decide_eq_true (hp.answers ack pending rfl)
  refine ⟨a, ha, Verifier.vouches_of_accepts a.accepted, by rw [hmessage], ?_, ?_, ?_⟩
  · rw [hthread, hclaim.1]
    exact hanswers.2.1
  · rw [hfact, hfingerprint]
    exact hanswers.1
  · rw [hrecipient, hclaim.2, hp.authed ack rfl]
    exact hanswers.2.2.symm

/-- A row that a step takes away, with the row that is there uncontested. -/
theorem Sound.justified (h : w.Sound) {e : AckEvent κ ρ} (hok : w.Uncontested e) {messageId : String}
    {row : PendingCommit} (hrow : w.service.commits.get? messageId = some row)
    (hgone : ¬ (w.step e).Keeps messageId row) : w.Proves messageId row ∨ w.Factless row := by
  rcases commits_step w e with hcommits | ⟨i, response, p, rfl, hget, hrows⟩
  · exact absurd (keeps_of_commits hcommits hrow) hgone
  · unfold Uncontested at hok
    dsimp only at hok
    rw [hget] at hok
    generalize hcommits : (w.step (.other (.advance i response))).service.commits = commits at hrows
    have hlost : ∀ row', commits.get? messageId = some row' → ¬ row.SameClaim row' := by
      intro row' hrow' hclaim
      exact hgone ⟨row', by rw [hcommits]; exact hrow', hclaim⟩
    cases hrows with
    | none => exact absurd ⟨rfl, rfl⟩ (hlost row hrow)
    | opens call recipientAccountId hphase =>
      rw [hphase] at hok
      by_cases hkey : messageId = call.messageId
      · have hsame := hok row (by rw [← hkey]; exact hrow)
        refine absurd ?_ (hlost _ (by rw [get?_set, if_pos hkey]))
        exact ⟨hsame.1.symm, hsame.2.symm⟩
      · exact absurd ⟨rfl, rfl⟩ (hlost row (by rw [get?_set, if_neg hkey]; exact hrow))
    | reschedules read sweep hphase =>
      rw [hphase] at hok
      by_cases hkey : messageId = read.messageId
      · have hsame : read.SameClaim row := hok row (by rw [← hkey]; exact hrow)
        refine absurd ?_ (hlost _ (by rw [get?_set, if_pos hkey]))
        exact ⟨hsame.1.symm, hsame.2.symm⟩
      · exact absurd ⟨rfl, rfl⟩ (hlost row (by rw [get?_set, if_neg hkey]; exact hrow))
    | consumes ack pending hphase =>
      rw [hphase] at hok hget
      by_cases hkey : messageId = trim ack.messageId
      · have hsame := hok row (by rw [← hkey]; exact hrow)
        rw [hkey]
        exact .inl (h.proves hget hsame.1 hsame.2)
      · exact absurd ⟨rfl, rfl⟩ (hlost row (by rw [get?_delete, if_neg hkey]; exact hrow))
    | drops read sweep hphase =>
      rw [hphase] at hok
      by_cases hkey : messageId = trim read.messageId
      · obtain ⟨hclaim, hfingerprint, hfactless⟩ := hok row (by rw [← hkey]; exact hrow)
        refine .inr ?_
        unfold Factless
        rw [hclaim.1, hfingerprint]
        exact hfactless
      · exact absurd ⟨rfl, rfl⟩ (hlost row (by rw [get?_delete, if_neg hkey]; exact hrow))

/-- No phase of a legacy ack changes a row. -/
theorem commits_legacy {i : Nat} {response : Response} {p : Phase}
    (hget : w.service.ops.get? i = some p) (hp : p.IsLegacyAck) :
    (w.step (.other (.advance i response))).service.commits = w.service.commits := by
  have hstep : w.service.step (.advance i response) =
      put i (advance i response p w.service) := by
    show w.service.resume i _ = _
    unfold resume
    rw [hget]
  show (w.service.step (.advance i response)).commits = _
  rw [hstep]
  show (advance i response p w.service).2.commits = _
  have hrows := (turns_advance i response p w.service).rows
  generalize (advance i response p w.service).2.commits = commits at hrows ⊢
  cases hrows with
  | none => rfl
  | opens call recipientAccountId hphase =>
    rw [hphase] at hp
    exact absurd hp id
  | reschedules read sweep hphase =>
    rw [hphase] at hp
    exact absurd hp id
  | consumes ack pending hphase =>
    rw [hphase] at hp
    exact absurd hp id
  | drops read sweep hphase =>
    rw [hphase] at hp
    exact absurd hp id

theorem Sound.deletesJustly (h : w.Sound) {e : AckEvent κ ρ} (hok : w.Uncontested e) :
    w.DeletesJustly e := by
  refine ⟨fun messageId row hrow hgone => h.justified hok hrow hgone, ?_⟩
  rintro i response p rfl hget hp
  exact commits_legacy hget hp

theorem sound_run (v : Verifier κ ρ) (c : Collation) (ownerAccountId : String) (store : Store c)
    (events : List (AckEvent κ ρ)) : Sound (Runs.run step (fresh v ownerAccountId store) events) :=
  Runs.invariant_all step (fun _ e hw => hw.step e) events _ (sound_fresh v ownerAccountId store)

end Acking

/-- **Commit acks are sound.** In every run in which the row that a procedure deletes or replaces is
the one that it read, a row is only deleted for an accepted ack that names it, vouched for by the
account of its recipient, or because it has no fact; no legacy ack deletes one; and after every
step every row comes due. -/
theorem run_acks_sound (v : Verifier κ ρ) (c : Collation) (ownerAccountId : String) (store : Store c)
    (events : List (AckEvent κ ρ))
    (h : Runs.Meets Acking.step Acking.Uncontested (Acking.fresh v ownerAccountId store) events) :
    Runs.Meets Acking.step Acking.DeletesJustly (Acking.fresh v ownerAccountId store) events ∧
      ∀ n, (Runs.run Acking.step (Acking.fresh v ownerAccountId store) (events.take n)).AllDue := by
  constructor
  · exact Runs.meets_of_invariant Acking.step (fun _ e hw _ => hw.step e)
      (fun _ e hw hok => hw.deletesJustly hok) events _ (Acking.sound_fresh v ownerAccountId store) h
  · intro n
    exact (Acking.sound_run v c ownerAccountId store (events.take n)).allDue

/-- **No row waits for ever.** After every run, whatever acks are contested, every row comes due. -/
theorem run_allDue (v : Verifier κ ρ) (c : Collation) (ownerAccountId : String) (store : Store c)
    (events : List (AckEvent κ ρ)) :
    (Runs.run Acking.step (Acking.fresh v ownerAccountId store) events).AllDue :=
  (Acking.sound_run v c ownerAccountId store events).allDue

/-! ### A message that is sent again while its ack is verified -/

/-- An account whose signatures name what they cover. -/
def trusting : Verifier Unit Unit where
  accountIdentityPublicKeyB64 _ := ""
  deriveDeviceIdFromPublicKeyB64 _ := none
  deriveAccountIdFromPublicKey key := some key
  verify key claim sig := some (decide (sig = key ++ " signs " ++ claim.messageFingerprint))
  verifyAccountAuthority anchor key _ _ _ := decide (anchor = key)

/-- Alice signs a message with this fingerprint. -/
def signedHello (fingerprint : String) : SendCall :=
  ⟨"th_1", "m", false, "", "hello",
    { kind := some "chat.message", senderAccountId := some "alice", messageId := some "m",
      contentHash := some fingerprint }, 0⟩

/-- The node passes on what it is given. -/
def routedByNode : DeliveryParts := ⟨true, "", .threw false, none, .routed⟩

/-- The message is sent, as the procedure `i`, up to its pending row. -/
def signedSend (i : Nat) (fingerprint : String) : List (AckEvent Unit Unit) :=
  ([.send (signedHello fingerprint), .advance i .ok, .advance i .ok, .advance i .ok,
    .deliver i routedByNode, .advance i .ok, .advance i .ok, .advance i .ok,
    .advance i .ok] : List Event).map AckEvent.other

/-- Bob's ack comes, and is compared with the row. -/
def ackComes : List (AckEvent Unit Unit) :=
  [.other (.commitAck ⟨"m", "first", "th_1", "bob", "bob"⟩), .other (.advance 1 .ok)]

/-- Bob's ack is verified. -/
def ackVerified : AckEvent Unit Unit :=
  .verify 1 ⟨⟨"m", "first", "th_1", "bob", "", 0, "bob", 0⟩, [], "bob signs first"⟩ .noRevocations

theorem run_acks_sound_first :
    Runs.Meets Acking.step Acking.DeletesJustly (Acking.fresh trusting "alice" withBob)
        (signedSend 0 "first" ++ ackComes ++ [ackVerified, .other (.advance 1 .ok)]) ∧
      ∀ n, (Runs.run Acking.step (Acking.fresh trusting "alice" withBob)
        ((signedSend 0 "first" ++ ackComes ++ [ackVerified, .other (.advance 1 .ok)]).take n)).AllDue :=
  run_acks_sound trusting Collation.byCodePoint "alice" withBob _ (by decide)

/-- **The ack of an old message stops the retries of a new one.** While the ack of the first
message is verified the message is sent again, with another fingerprint. -/
theorem stale_ack_deletes : ¬ ∀ (v : Verifier Unit Unit) ownerAccountId
    (store : Store Collation.byCodePoint) (events : List (AckEvent Unit Unit)),
    Runs.Meets Acking.step Acking.DeletesJustly (Acking.fresh v ownerAccountId store) events := by
  intro h
  let events := signedSend 0 "first" ++ ackComes ++ signedSend 2 "second" ++ [ackVerified]
  let w := Runs.run Acking.step (Acking.fresh trusting "alice" withBob) events
  have hlaw : w.DeletesJustly (.other (.advance 1 .ok)) :=
    Runs.Meets.step_of_append Acking.step events
      (h trusting "alice" withBob (events ++ [.other (.advance 1 .ok)]))
  have hrow : w.service.commits.get? "m" =
      some ⟨"m", "th_1", "second", "bob", 0, 0, 5000, none⟩ := by decide
  have hgone : (w.step (.other (.advance 1 .ok))).service.commits.get? "m" = none := by decide
  have haccepted : ∀ a ∈ w.accepted, a.signed.claim.messageFingerprint = "first" := by decide
  have hfact : ¬ w.Factless ⟨"m", "th_1", "second", "bob", 0, 0, 5000, none⟩ := by decide
  rcases hlaw.justified "m" _ hrow (fun ⟨row', hrow', _⟩ => by
    rw [hgone] at hrow'
    exact nomatch hrow') with ⟨a, ha, -, -, -, hnamed, -⟩ | hfactless
  · rw [haccepted a ha] at hnamed
    exact absurd hnamed (by decide)
  · exact hfact hfactless

end RezChat.Delivery
