/-
The contact store and the store of connect requests (`storage/ChatContactStore.js`,
`storage/ConnectRequestStore.js`), of one owner.

A contact is found by its account, and so is the one request that may be open with an
account. Each id is trimmed on the way in, and an empty one is refused (`requireId`).
A row that its record class does not accept is not written: the call throws.

Every call is a read and at most one write; the specifications below say what an
interrupted call has left.
-/
import RezChat.Lib.Async
import RezChat.Lib.OrdMap
import RezChat.Inbox.Frame

set_option autoImplicit false

namespace RezChat.Contacts

open Inbox (trim trim_trim)
open Proc

/-! ## Rows -/

/-- `RELATIONSHIP_STATES`. A known account has a name and no relationship. -/
inductive RelationshipState where
  | known
  | invited
  | active
  | blocked
  deriving DecidableEq

structure ChatContact where
  displayName : Option String
  avatarFileHash : String
  relationshipState : RelationshipState
  createdAtMs : Int
  updatedAtMs : Int
  lastSeenAtMs : Option Int
  deriving DecidableEq

/-- `CONNECT_REQUEST_DIRECTIONS`. -/
inductive Direction where
  | outgoing
  | incoming
  deriving DecidableEq

/-- `CONNECT_REQUEST_STATES`. -/
inductive RequestState where
  | pending
  | approved
  | denied
  deriving DecidableEq

structure ConnectRequest where
  direction : Direction
  requestId : String
  inviteCode : Option String
  displayName : Option String
  groupId : Option String
  state : RequestState
  createdAtMs : Int
  updatedAtMs : Int

/-- The two stores, and whatever else there is. `misread` is not part of any store: it
tells of which accounts a name was recorded although their row could not be read. -/
structure World (ω : Type) where
  contacts : OrdMap String ChatContact
  requests : OrdMap String ConnectRequest
  misread : List String
  rest : ω

variable {ω α : Type}

namespace World

def contact (w : World ω) (accountId : String) : Option ChatContact :=
  w.contacts.get? (trim accountId)

/-- How an account stands with the owner, if there is a row about it. -/
def standing (w : World ω) (accountId : String) : Option RelationshipState :=
  (w.contact accountId).map ChatContact.relationshipState

def request (w : World ω) (peerAccountId : String) : Option ConnectRequest :=
  w.requests.get? (trim peerAccountId)

/-- The owner has asked the account to connect, and has not heard of it since. -/
def PendingOutgoing (w : World ω) (accountId : String) : Prop :=
  ∃ r, w.request accountId = some r ∧ r.direction = .outgoing ∧ r.state = .pending

def withContact (w : World ω) (accountId : String) (c : ChatContact) : World ω :=
  { w with contacts := w.contacts.set (trim accountId) c }

def withoutContact (w : World ω) (accountId : String) : World ω :=
  { w with contacts := w.contacts.delete (trim accountId) }

def withRequest (w : World ω) (peerAccountId : String) (r : ConnectRequest) : World ω :=
  { w with requests := w.requests.set (trim peerAccountId) r }

def withoutRequest (w : World ω) (peerAccountId : String) : World ω :=
  { w with requests := w.requests.delete (trim peerAccountId) }

variable {w : World ω} {a b : String} {c : ChatContact} {r : ConnectRequest}

theorem standing_withContact : (w.withContact a c).standing b =
    if trim b = trim a then some c.relationshipState else w.standing b := by
  rw [standing, contact, withContact, OrdMap.get?_set]
  split
  · rfl
  · rfl

theorem standing_withoutContact : (w.withoutContact a).standing b =
    if trim b = trim a then none else w.standing b := by
  rw [standing, contact, withoutContact, OrdMap.get?_delete]
  split
  · rfl
  · rfl

@[simp] theorem standing_withoutRequest : (w.withoutRequest a).standing b = w.standing b := rfl

theorem request_withRequest : (w.withRequest a r).request b =
    if trim b = trim a then some r else w.request b := by
  rw [request, withRequest, OrdMap.get?_set]
  rfl

theorem request_withoutRequest : (w.withoutRequest a).request b =
    if trim b = trim a then none else w.request b := by
  rw [request, withoutRequest, OrdMap.get?_delete]
  rfl

/-- The standing of an account is that of its trimmed id. -/
theorem standing_congr (w : World ω) (h : trim a = trim b) : w.standing a = w.standing b := by
  rw [standing, standing, contact, contact, h]

end World

/-! ## Records -/

/-- The length of a string in UTF-16 code units. -/
def utf16Length (s : String) : Nat :=
  (s.toList.map fun c => if c.val < 0x10000 then 1 else 2).sum

/-- The name as the record keeps it: trimmed, and none if nothing is left. -/
def trimmedName (displayName : Option String) : Option String :=
  displayName.bind fun text => if trim text = "" then none else some (trim text)

/-- `coerceDisplayName` lets a name of up to 64 characters pass. -/
def nameFits (displayName : Option String) : Bool :=
  match trimmedName displayName with
  | some text => decide (utf16Length text ≤ 64)
  | none => true

/-- What a caller of `upsert` changes in a contact. -/
structure Patch where
  relationshipState : Option RelationshipState
  displayName : Option String
  avatarFileHash : Option String
  lastSeenAtMs : Option Int
  deriving DecidableEq

/-- The state of the row that `upsert` writes. A row that says nothing is `active`. -/
def Patch.standing (patch : Patch) (existing : Option RelationshipState) : RelationshipState :=
  (patch.relationshipState.or existing).getD .active

/-- The row that `upsert` writes, before its record class has looked at it. -/
def Patch.apply (patch : Patch) (existing : Option ChatContact) (nowMs : Int) : ChatContact where
  displayName := trimmedName (patch.displayName.or (existing.bind ChatContact.displayName))
  avatarFileHash := trim ((patch.avatarFileHash.or
    (existing.map ChatContact.avatarFileHash)).getD "")
  relationshipState := patch.standing (existing.map ChatContact.relationshipState)
  createdAtMs := (existing.map ChatContact.createdAtMs).getD nowMs
  updatedAtMs := nowMs
  lastSeenAtMs := patch.lastSeenAtMs.or (existing.bind ChatContact.lastSeenAtMs)

/-- The record class of connect requests accepts the row. -/
def ConnectRequest.valid (r : ConnectRequest) : Bool :=
  decide (r.requestId ≠ "") && (decide (r.direction ≠ .incoming) || r.inviteCode.isSome)

namespace ContactStore

/-! ## Calls -/

/-- `requireId`. -/
def withId (accountId : String) (p : Proc (World ω) α) : Proc (World ω) α :=
  if trim accountId = "" then throw else p

/-- `get` of the contact store. -/
def get (accountId : String) : Proc (World ω) (Option ChatContact) :=
  withId accountId (await fun w => (w.contact accountId, w))

/-- `upsert` of the contact store. -/
def upsert (accountId : String) (patch : Patch) (nowMs : Int) : Proc (World ω) Unit :=
  withId accountId do
    let existing ← get accountId
    if nameFits (patch.displayName.or (existing.bind ChatContact.displayName)) = true then
      await fun w => ((), w.withContact accountId (patch.apply existing nowMs))
    else throw

/-- `delete` of the contact store; whether there was a row. -/
def delete (accountId : String) : Proc (World ω) Bool :=
  withId accountId do
    let existing ← get accountId
    await fun w => ((), w.withoutContact accountId)
    pure existing.isSome

/-- `get` of the request store. -/
def getRequest (peerAccountId : String) : Proc (World ω) (Option ConnectRequest) :=
  withId peerAccountId (await fun w => (w.request peerAccountId, w))

/-- `upsert` of the request store. -/
def upsertRequest (peerAccountId : String) (r : ConnectRequest) : Proc (World ω) Unit :=
  withId peerAccountId do
    let existing ← getRequest peerAccountId
    have next := { r with
      createdAtMs := (existing.map ConnectRequest.createdAtMs).getD r.createdAtMs }
    if next.valid = true then
      await fun w => ((), w.withRequest peerAccountId next)
    else throw

/-- `delete` of the request store; whether there was a row. -/
def deleteRequest (peerAccountId : String) : Proc (World ω) Bool :=
  withId peerAccountId do
    let existing ← getRequest peerAccountId
    await fun w => ((), w.withoutRequest peerAccountId)
    pure existing.isSome

/-! ## What the calls do -/

section Specs

variable {w : World ω} {a : String} {E D : World ω → Prop}

theorem withId_spec {p : Proc (World ω) α} {R : α → World ω → Prop} (hE : E w)
    (h : wp p R E D w) : wp (withId a p) R E D w := by
  unfold withId
  split
  · exact wp_throw hE
  · exact h

theorem get_spec {R : Option ChatContact → World ω → Prop} (hR : R (w.contact a) w) (hE : E w)
    (hD : D w) : wp (get a) R E D w :=
  withId_spec hE (wp_await_read hR hE hD)

/-- The row is written whole, with the state that the patch and the old row lead to; or
the call has failed, before or after that. -/
theorem upsert_spec {patch : Patch} {nowMs : Int} {R : World ω → Prop}
    (hR : ∀ c : ChatContact, c.relationshipState = patch.standing (w.standing a) →
      R (w.withContact a c) ∧ E (w.withContact a c))
    (hE : E w) (hD : D w) : wp (upsert a patch nowMs) (fun _ => R) E D w := by
  unfold upsert
  refine withId_spec hE (wp_bind (get_spec ?_ hE hD))
  split
  · have h := hR (patch.apply (w.contact a) nowMs) rfl
    exact wp_await h.1 hE h.2 hD
  · exact wp_throw hE

theorem delete_spec {R : Bool → World ω → Prop}
    (hR : ∀ existed, R existed (w.withoutContact a) ∧ E (w.withoutContact a)) (hE : E w)
    (hD : D w) : wp (delete a) R E D w := by
  unfold delete
  refine withId_spec hE (wp_bind (get_spec ?_ hE hD))
  exact wp_bind (wp_await (wp_pure (hR _).1) hE (hR true).2 hD)

theorem getRequest_spec {R : Option ConnectRequest → World ω → Prop} (hR : R (w.request a) w)
    (hE : E w) (hD : D w) : wp (getRequest a) R E D w :=
  withId_spec hE (wp_await_read hR hE hD)

/-- A request is written with the direction and the state that it was given. -/
theorem upsertRequest_spec {r : ConnectRequest} {R : World ω → Prop}
    (hR : ∀ r' : ConnectRequest, r'.direction = r.direction → r'.state = r.state →
      R (w.withRequest a r') ∧ E (w.withRequest a r'))
    (hE : E w) (hD : D w) : wp (upsertRequest a r) (fun _ => R) E D w := by
  unfold upsertRequest
  refine withId_spec hE (wp_bind (getRequest_spec ?_ hE hD))
  dsimp only
  split
  · have h := hR { r with
      createdAtMs := ((w.request a).map ConnectRequest.createdAtMs).getD r.createdAtMs } rfl rfl
    exact wp_await h.1 hE h.2 hD
  · exact wp_throw hE

theorem deleteRequest_spec {R : Bool → World ω → Prop}
    (hR : ∀ existed, R existed (w.withoutRequest a) ∧ E (w.withoutRequest a)) (hE : E w)
    (hD : D w) : wp (deleteRequest a) R E D w := by
  unfold deleteRequest
  refine withId_spec hE (wp_bind (getRequest_spec ?_ hE hD))
  exact wp_bind (wp_await (wp_pure (hR _).1) hE (hR true).2 hD)

end Specs

end ContactStore

end RezChat.Contacts
