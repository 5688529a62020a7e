/-
The contacts service (`services/ServerContactsService.js`), and what other services
do to a contact: the acceptance of an invite (`ServerInvitesService.js`), the profile
of a peer (`ServerProfileService.js`), and the snapshots of peer links
(`#handlePeerLinkUpdated` of `ServerEventService.js`).

A contact is made active in one place, `ensureActiveContact`, and it is its callers
that look at what the contact was before: some do, some do not. Whether they do is what
the laws about consent and about blocking are about, so every caller is here.

What the service calls besides its two stores is a parameter. One reading of the clock
serves a call.
-/
import RezChat.Contacts.Store

set_option autoImplicit false

namespace RezChat.Contacts

open Inbox (trim trim_trim)

variable {ω α : Type}

/-! ## Collaborators -/

/-- What the signed envelope of an invite says. -/
structure Envelope where
  creatorDisplayName : String
  groupId : Option String

/-- What the service calls. `creatorOf` is the account that an invite code commits to;
`openInvite` fetches the envelope of an invite, which has to be that account's, and runs
the handshake with it, and `finishInvite` is what `acceptInvite` does once the contact is
made. -/
structure Links (ω : Type) where
  ownerAccountId : String
  clock : ω → Int
  isCoMember : String → Proc ω Bool
  deleteDirectThreadsForPeer : String → Proc ω Unit
  replicateRemoval : String → ω → ω
  -- invites
  creatorOf : String → String
  createInvite : String → Proc ω String
  openInvite : String → Bool → Proc ω Envelope
  finishInvite : String → Envelope → Proc ω Unit
  isDirectContactInvite : ω → String → Bool
  -- what is sent to a peer
  freshRequestId : ω → String
  sendConnectRequest : String → ConnectRequest → Proc ω Unit
  sendConnectAccepted : String → String → Int → Proc ω Unit
  ownDisplayName : ω → String
  -- threads
  listDirectThreadIdsForPeer : String → Proc ω (List String)
  persistConnectAcceptedSystemMessage : String → String → String → Int → Proc ω Unit
  materializeThread : String → String → Proc ω Unit
  deleteThread : String → Proc ω Unit
  discardGroupForRejectedInvite : String → Proc ω Unit

/-- A `ConnectRequestPayloadV1`. -/
structure ConnectRequestRecord where
  requestId : String
  inviteCode : String
  displayName : String
  groupId : String

/-- A `ChatConnectAcceptedPayloadV1`. -/
structure ConnectAcceptedRecord where
  acceptorDisplayName : String
  actedAtMs : Int

/-- A `ProfilePayloadV1`. -/
structure Profile where
  displayName : String
  avatarFileHash : String
  updatedAtMs : Int
  deriving DecidableEq

namespace ContactsService

open ContactStore Proc ChatContact

def putRest (w : ω) (s : World ω) : World ω := { s with rest := w }

def inRest (p : Proc ω α) : Proc (World ω) α := zoom World.rest putRest p

/-- A call whose failure is logged and passed over; whether it failed. -/
def passOver (p : Proc (World ω) Unit) : Proc (World ω) Bool :=
  tryCatch (do
    p
    pure false) (pure true)

def now (L : Links ω) : Proc (World ω) Int := do
  let s ← get
  pure (L.clock s.rest)

/-- A name that may be missing. -/
def orNone (text : String) : Option String := if text = "" then none else some text

/-! ## Contacts -/

/-- `ensureActiveContact`. It does not look at what the contact was. -/
def ensureActiveContact (L : Links ω) (accountId displayName : String) :
    Proc (World ω) Unit :=
  if trim accountId = "" then pure ()
  else do
    let nowMs ← now L
    upsert accountId ⟨some .active, orNone displayName, none, some nowMs⟩ nowMs

/-- The row that `ensureKnownAccount` looks at. One that cannot be read counts as
missing; that it was not read is noted. -/
def readOrMissing (accountId : String) : Proc (World ω) (Option ChatContact) :=
  tryCatch (get accountId) (do
    modify fun s => { s with misread := trim accountId :: s.misread }
    pure none)

/-- Whether `ensureKnownAccount` leaves a row as it is: it is one of a relationship, or
has the name already. -/
def keepsRow (existing : Option ChatContact) (name : String) : Bool :=
  match existing with
  | some c => decide (c.relationshipState ≠ .known) || decide (c.displayName = some name)
  | none => false

/-- `ensureKnownAccount`: record the name of an account that is no contact. -/
def ensureKnownAccount (L : Links ω) (accountId displayName : String) : Proc (World ω) Unit :=
  if trim accountId = "" ∨ trim accountId = L.ownerAccountId ∨ trim displayName = "" then pure ()
  else do
    let existing ← readOrMissing accountId
    if keepsRow existing (trim displayName) = true then pure ()
    else do
      let nowMs ← now L
      upsert accountId ⟨some .known, some (trim displayName), none, none⟩ nowMs

/-- `isActiveContact`, in the world as it is. -/
def isActive (s : World ω) (accountId : String) : Bool :=
  decide (trim accountId ≠ "") && decide (s.standing accountId = some .active)

/-- `isActiveContact`. -/
def isActiveContact (accountId : String) : Proc (World ω) Bool :=
  if trim accountId = "" then pure false else await fun s => (isActive s accountId, s)

def renameContact (L : Links ω) (accountId displayName : String) : Proc (World ω) Unit := do
  let nowMs ← now L
  upsert accountId ⟨none, some displayName, none, none⟩ nowMs

def blockContact (L : Links ω) (accountId : String) : Proc (World ω) Unit := do
  let nowMs ← now L
  upsert accountId ⟨some .blocked, none, none, none⟩ nowMs

def unblockContact (L : Links ω) (accountId : String) : Proc (World ω) Unit := do
  let nowMs ← now L
  upsert accountId ⟨some .active, none, none, none⟩ nowMs

/-- Whether a contact that is deleted is a co-member, whose name the group still shows. -/
def shownInGroup (L : Links ω) (accountId : String) (existing : Option ChatContact) :
    Proc (World ω) Bool :=
  if existing.isSome then tryCatch (inRest (L.isCoMember accountId)) (pure false)
  else pure false

/-- `deleteContact`. The row of a co-member is kept for its name. -/
def deleteContact (L : Links ω) (accountId : String) (fromSync : Bool) : Proc (World ω) Unit := do
  inRest (L.deleteDirectThreadsForPeer accountId)
  let existing ← tryCatch (get accountId) (pure none)
  let coMember ← shownInGroup L accountId existing
  if coMember then do
    let nowMs ← now L
    upsert accountId ⟨some .known, none, none, none⟩ nowMs
    modify fun s =>
      if fromSync then s else { s with rest := L.replicateRemoval accountId s.rest }
  else do
    let deleted ← delete accountId
    modify fun s =>
      if deleted && !fromSync then { s with rest := L.replicateRemoval accountId s.rest } else s

/-! ## Connect requests -/

/-- The first `n` UTF-16 code units of a text; a character that does not fit is left out. -/
def takeUnits : Nat → List Char → List Char
  | _, [] => []
  | n, c :: cs =>
    let units := if c.val < 0x10000 then 1 else 2
    if units ≤ n then c :: takeUnits (n - units) cs else []

/-- `#upsertInvitedContact`. It never takes anything away from an active or a blocked
contact. -/
def upsertInvitedContact (L : Links ω) (accountId displayName : String) :
    Proc (World ω) Unit := do
  let name := String.ofList (takeUnits 64 (trim displayName).toList)
  let existing ← get accountId
  if existing.map relationshipState = some .active ∨
      existing.map relationshipState = some .blocked then pure ()
  else do
    let nowMs ← now L
    upsert accountId ⟨some .invited, orNone name, none, none⟩ nowMs

/-- `requestConnect`; whether a request was sent. -/
def requestConnect (L : Links ω) (peerAccountId displayName groupId : String) :
    Proc (World ω) Bool :=
  if trim peerAccountId = "" ∨ trim peerAccountId = L.ownerAccountId then throw
  else do
    let existing ← get peerAccountId
    if existing.map relationshipState = some .active then pure false
    else do
      let inviteCode ← inRest (L.createInvite (trim displayName))
      if inviteCode = "" then throw
      else do
        let nowMs ← now L
        let s ← get
        let request : ConnectRequest :=
          { direction := .outgoing
            requestId := L.freshRequestId s.rest
            inviteCode := some inviteCode
            displayName := orNone (trim displayName)
            groupId := orNone (trim groupId)
            state := .pending
            createdAtMs := nowMs
            updatedAtMs := nowMs }
        inRest (L.sendConnectRequest (trim peerAccountId) request)
        upsertRequest peerAccountId request
        upsertInvitedContact L peerAccountId ""
        pure true

/-- Who made a direct invite becomes an active contact, whatever it was; whether that
failed, which is logged and passed over. -/
def ensureInviter (L : Links ω) (inviteCode : String) (envelope : Envelope) :
    Proc (World ω) Bool :=
  if envelope.groupId.isSome then pure false
  else passOver (ensureActiveContact L (L.creatorOf inviteCode) (trim envelope.creatorDisplayName))

/-- `acceptInvite` of the invites service. -/
def acceptInvite (L : Links ω) (inviteCode : String) (forceReestablish : Bool) :
    Proc (World ω) Bool :=
  if trim inviteCode = "" then throw
  else do
    let envelope ← inRest (L.openInvite (trim inviteCode) forceReestablish)
    let failed ← ensureInviter L (trim inviteCode) envelope
    inRest (L.finishInvite (trim inviteCode) envelope)
    pure failed

/-- The first direct thread with a peer, if any can be listed. -/
def firstDirectThread (L : Links ω) (peerAccountId : String) : Proc (World ω) (Option String) := do
  let threadIds ← tryCatch (inRest (L.listDirectThreadIdsForPeer peerAccountId)) (pure [])
  pure (threadIds.head?.bind orNone)

/-- Show an acceptance in a thread, if there is one. -/
def showAccepted (L : Links ω) (threadId : Option String) (acceptor acceptorDisplayName : String)
    (actedAtMs : Int) : Proc (World ω) Unit :=
  match threadId with
  | some id => inRest (L.persistConnectAcceptedSystemMessage id acceptor acceptorDisplayName
      actedAtMs)
  | none => pure ()

/-- `#announceConnectAccepted`; whether the signal could not be sent. -/
def announceConnectAccepted (L : Links ω) (peerAccountId acceptorDisplayName : String) :
    Proc (World ω) Bool := do
  let nowMs ← now L
  let threadId ← firstDirectThread L peerAccountId
  showAccepted L threadId L.ownerAccountId acceptorDisplayName nowMs
  passOver (inRest (L.sendConnectAccepted peerAccountId acceptorDisplayName nowMs))

/-- `#autoReconnectActiveRequester`: an active contact that asks again has lost us. -/
def autoReconnectActiveRequester (L : Links ω) (requester inviteCode : String) :
    Proc (World ω) Bool := do
  let s ← get
  let name := trim (L.ownDisplayName s.rest)
  let failed ← acceptInvite L inviteCode true
  let unsent ← announceConnectAccepted L requester name
  pure (failed || unsent)

/-- Whether a requester that is no active contact may ask at all: it is invited, or a
co-member of a group. -/
def requesterAllowed (L : Links ω) (requester : String) (existing : Option ChatContact) :
    Proc (World ω) Bool :=
  if existing.map relationshipState = some .invited then pure true
  else tryCatch (inRest (L.isCoMember requester)) (pure false)

/-- Store an incoming request, and show its sender as an invited contact. -/
def storeConnectRequest (L : Links ω) (record : ConnectRequestRecord) (requester : String) :
    Proc (World ω) Unit := do
  let nowMs ← now L
  let requestId := trim record.requestId
  upsertRequest requester
    { direction := .incoming
      requestId := if requestId ≠ "" then requestId else "cr_in_" ++ toString nowMs
      inviteCode := some (trim record.inviteCode)
      displayName := orNone (trim record.displayName)
      groupId := orNone (trim record.groupId)
      state := .pending
      createdAtMs := nowMs
      updatedAtMs := nowMs }
  upsertInvitedContact L requester (trim record.displayName)

/-- `handleIncomingConnectRequest`: whether the request was consumed, and whether a
failure was passed over. -/
def handleIncomingConnectRequest (L : Links ω) (record : ConnectRequestRecord)
    (senderAccountId : String) : Proc (World ω) (Bool × Bool) :=
  let requester := trim senderAccountId
  if requester = "" ∨ trim record.inviteCode = "" then pure (false, false)
  else do
    let existing ← get requester
    if existing.map relationshipState = some .active then do
      let failed ← autoReconnectActiveRequester L requester record.inviteCode
      pure (true, failed)
    else if existing.map relationshipState = some .blocked then pure (true, false)
    else do
      let allowed ← requesterAllowed L requester existing
      if allowed then do
        storeConnectRequest L record requester
        pure (true, false)
      else pure (true, false)

/-- `approveConnectRequest`. -/
def approveConnectRequest (L : Links ω) (accountId acceptorDisplayName : String) :
    Proc (World ω) Bool :=
  if trim accountId = "" then throw
  else do
    let request ← getRequest accountId
    match request with
    | none => throw
    | some r =>
      match r.direction, r.inviteCode with
      | .incoming, some inviteCode => do
        let failed ← acceptInvite L inviteCode false
        let _ ← deleteRequest accountId
        let unsent ← announceConnectAccepted L (trim accountId) (trim acceptorDisplayName)
        pure (failed || unsent)
      | _, _ => throw

/-- `denyConnectRequest`. -/
def denyConnectRequest (accountId : String) : Proc (World ω) Unit :=
  if trim accountId = "" then throw
  else do
    let _ ← deleteRequest accountId
    let contact ← get accountId
    if contact.map relationshipState = some .invited then do
      let _ ← delete accountId
      pure ()
    else pure ()

/-- `acceptOutgoingConnectRequest`: whether we had asked the account to connect, which
makes it an active contact. -/
def acceptOutgoingConnectRequest (L : Links ω) (accountId displayName : String) :
    Proc (World ω) Bool :=
  if trim accountId = "" then pure false
  else do
    let request ← getRequest accountId
    match request with
    | none => pure false
    | some r =>
      if r.direction = .outgoing ∧ r.state = .pending then do
        ensureActiveContact L accountId (trim displayName)
        let _ ← deleteRequest accountId
        pure true
      else pure false

/-- The name that an acceptance brings, recorded for a contact that is active, or that
we had asked to connect. -/
def recordAcceptorName (L : Links ω) (acceptor acceptorDisplayName : String) :
    Proc (World ω) Bool :=
  if trim acceptorDisplayName = "" then pure false
  else do
    let named ← tryCatch (acceptOutgoingConnectRequest L acceptor acceptorDisplayName)
      (pure false)
    if named then pure false
    else do
      let existing ← tryCatch (get acceptor) (pure none)
      if existing.map relationshipState = some .active then
        passOver (ensureActiveContact L acceptor acceptorDisplayName)
      else pure false

/-- The thread an acceptance is shown in. -/
def acceptedThread (L : Links ω) (acceptor threadId : String) : Proc (World ω) (Option String) :=
  if trim threadId ≠ "" then pure (some (trim threadId)) else firstDirectThread L acceptor

/-- `handleIncomingConnectAccepted`. It is consumed whatever becomes of it. -/
def handleIncomingConnectAccepted (L : Links ω) (record : ConnectAcceptedRecord)
    (senderAccountId threadId : String) : Proc (World ω) (Bool × Bool) :=
  let acceptor := trim senderAccountId
  if acceptor = "" then pure (true, false)
  else do
    let resolved ← acceptedThread L acceptor threadId
    match resolved with
    | none => pure (true, false)
    | some id => do
      let unnamed ← recordAcceptorName L acceptor record.acceptorDisplayName
      inRest (L.persistConnectAcceptedSystemMessage id acceptor record.acceptorDisplayName
        record.actedAtMs)
      pure (true, unnamed)

/-! ## Profiles -/

/-- `handleIncomingProfile`: a profile that is newer than a contact updates it. -/
def handleIncomingProfile (L : Links ω) (profile : Profile) (senderAccountId : String) :
    Proc (World ω) (Bool × Bool) :=
  if trim senderAccountId = "" then pure (false, false)
  else do
    let existing ← get senderAccountId
    match existing with
    | none => pure (true, false)
    | some c =>
      if profile.updatedAtMs ≤ c.updatedAtMs then pure (true, false)
      else do
        let nowMs ← now L
        upsert senderAccountId ⟨none, some profile.displayName, orNone profile.avatarFileHash,
          some nowMs⟩ nowMs
        pure (true, false)

/-! ## Peer links -/

/-- The states of a peer link that its snapshot is acted upon in. -/
inductive LinkState where
  | established
  | rejected
  | other

/-- The snapshot of a peer link. -/
structure PeerLinkSnapshot where
  state : LinkState
  peerAccountId : String
  threadId : String
  remoteDisplayName : String
  activeInviteId : String

/-- `#shouldMaterializeDirectLink`: the peer is an active contact, or the link was opened
by a direct invite of ours. -/
def shouldMaterializeDirectLink (L : Links ω) (peerAccountId activeInviteId : String) :
    Proc (World ω) Bool := do
  let active ← isActiveContact peerAccountId
  if active then pure true
  else if activeInviteId = "" then pure false
  else await fun s => (L.isDirectContactInvite s.rest activeInviteId, s)

/-- A link that is established: its thread and its contact are made, if it is to be seen. -/
def materializeLink (L : Links ω) (body : PeerLinkSnapshot) : Proc (World ω) Unit := do
  let materialize ← shouldMaterializeDirectLink L body.peerAccountId body.activeInviteId
  if materialize then do
    let _ ← passOver (inRest (L.materializeThread body.threadId body.peerAccountId))
    let _ ← passOver (ensureActiveContact L body.peerAccountId body.remoteDisplayName)
    pure ()
  else pure ()

/-- A link that was rejected: what was made for it is taken back. -/
def rollbackLink (L : Links ω) (body : PeerLinkSnapshot) : Proc (World ω) Unit := do
  let _ ← passOver (inRest (L.deleteThread body.threadId))
  let _ ← passOver (deleteContact L body.peerAccountId false)
  let _ ← passOver (inRest (L.discardGroupForRejectedInvite body.activeInviteId))
  pure ()

/-- `#handlePeerLinkUpdated`. -/
def handlePeerLinkUpdated (L : Links ω) (body : PeerLinkSnapshot) : Proc (World ω) Unit :=
  if body.peerAccountId = "" then pure ()
  else
    match body.state with
    | .established => materializeLink L body
    | .rejected => rollbackLink L body
    | .other => pure ()

/-! ## The owner -/

/-- What the owner can do about a contact. -/
inductive OwnerAct where
  | renameContact (accountId displayName : String)
  | blockContact (accountId : String)
  | unblockContact (accountId : String)
  | deleteContact (accountId : String)
  | requestConnect (peerAccountId displayName groupId : String)
  | approveConnectRequest (accountId acceptorDisplayName : String)
  | denyConnectRequest (accountId : String)
  | acceptInvite (inviteCode : String)

def act (L : Links ω) : OwnerAct → Proc (World ω) Unit
  | .renameContact a n => renameContact L a n
  | .blockContact a => blockContact L a
  | .unblockContact a => unblockContact L a
  | .deleteContact a => deleteContact L a false
  | .requestConnect a n g => do
    let _ ← requestConnect L a n g
    pure ()
  | .approveConnectRequest a n => do
    let _ ← approveConnectRequest L a n
    pure ()
  | .denyConnectRequest a => denyConnectRequest a
  | .acceptInvite code => do
    let _ ← acceptInvite L code false
    pure ()

end ContactsService

end RezChat.Contacts
