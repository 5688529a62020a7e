/-
Original messages and what is signed of them: `records/payloads/originalMessageShapes.js`, the four
payloads that it is about, and `#signOriginalPayload` of `server/services/ServerMessagesService.js`.

The sender makes a draft record first and signs what the draft became, so that the wire record, which
is made of the draft, has every signed field as it was signed. What the receiver decodes differs from
it in the order of keys at most. Coercion leaves signed fields as they are when it runs again, with one
exception that cannot be signed: an authority epoch that is null.
-/
import RezChat.Records.SyncPayloads

set_option autoImplicit false

namespace RezChat.Records

open Schema Json List

open Inbox (trim trim_trim)

/-! ## The payloads -/

def messageKind : String := "rez.chat.message.v1"

def messageEditKind : String := "rez.chat.message.edit.v1"

def messageTombstoneKind : String := "rez.chat.message.tombstone.v1"

def reactionKind : String := "rez.chat.reaction.v1"

def maxTextLength : Nat := 8192

/-- The fields that a signed original has besides. -/
def authFields : List (String × FieldSpec) :=
  [("signerPublicKeyB64", optionalText), ("senderDeviceId", optionalText),
    ("senderAuthorityEpoch", { type := .int, nullable := true }),
    ("senderCertChain", optionalArray), ("contentHash", optionalText), ("sig", optionalText)]

/-- `CHANNEL_ID_PATTERN.test`. -/
def isChannelId (s : String) : Bool :=
  0 < s.toList.length && s.toList.length ≤ 64 &&
    s.toList.all fun c => c.isLower || c.isDigit || c = '_' || c = '-'

/-- `validate` of a message. -/
def ChatMessage.validate (get : String → Json) : Except String Unit :=
  match get "channelId" with
  | .str channelId =>
    if channelId = "" then .ok ()
    else assert (isChannelId channelId)
      ("ChatMessagePayloadV1.channelId must match /^[a-z0-9_-]\x7b1,64\x7d$/, got '" ++
        channelId ++ "'")
  | _ => .ok ()

/-- `ChatMessagePayloadV1`. -/
def ChatMessage.schema : Schema where
  kind := messageKind
  fields := [("threadId", requiredText), ("senderAccountId", requiredText),
    ("messageId", requiredText), ("text", { type := .string false, maxLength := some maxTextLength }),
    ("inReplyToMessageId", optionalText),
    ("channelId", { type := .string true, maxLength := some 64 })] ++ authFields
  validate := ChatMessage.validate
  names := by decide

/-- `ChatMessageEditPayloadV1`. -/
def ChatMessageEdit.schema : Schema where
  kind := messageEditKind
  fields := [("threadId", requiredText), ("targetMessageId", requiredText),
    ("newText", { type := .string false, maxLength := some maxTextLength }),
    ("senderAccountId", requiredText), ("editedAtMs", requiredInt),
    ("targetFingerprint", optionalText)] ++ authFields
  validate := fun _ => .ok ()
  names := by decide

/-- `ChatMessageTombstonePayloadV1`. -/
def ChatMessageTombstone.schema : Schema where
  kind := messageTombstoneKind
  fields := [("threadId", requiredText), ("targetMessageId", requiredText),
    ("senderAccountId", requiredText), ("tombstonedAtMs", requiredInt),
    ("targetFingerprint", optionalText)] ++ authFields
  validate := fun _ => .ok ()
  names := by decide

/-- `ChatReactionPayloadV1`. -/
def ChatReaction.schema : Schema where
  kind := reactionKind
  fields := [("threadId", requiredText), ("targetMessageId", requiredText),
    ("emoji", { type := .string true, required := true, maxLength := some 16 }),
    ("op", { type := .enum ["add", "remove"], required := true }), ("senderAccountId", requiredText),
    ("createdAtMs", requiredInt), ("targetFingerprint", optionalText)] ++ authFields
  validate := fun _ => .ok ()
  names := by decide

/-! ## What is signed -/

/-- `ORIGINAL_MESSAGE_MUTATION_KINDS`. -/
def originalMessageMutationKinds : List String :=
  [messageEditKind, messageTombstoneKind, reactionKind]

/-- `KIND_CONTENT_FIELDS`. -/
def kindContentFields : List (String × List String) :=
  [(messageKind, ["threadId", "messageId", "text", "inReplyToMessageId", "channelId"]),
    (messageEditKind, ["threadId", "targetMessageId", "targetFingerprint", "newText", "editedAtMs"]),
    (messageTombstoneKind, ["threadId", "targetMessageId", "targetFingerprint", "tombstonedAtMs"]),
    (reactionKind,
      ["threadId", "targetMessageId", "targetFingerprint", "emoji", "op", "createdAtMs"])]

/-- The fields that are moments. -/
def momentFields : List String := ["editedAtMs", "tombstonedAtMs", "createdAtMs"]

/-- `str`. -/
def str : Option Json → String
  | some (.str s) => trim s
  | _ => ""

/-- A text as it is, and none for anything else. -/
def textOrEmpty : Option Json → Json
  | some (.str s) => .str s
  | _ => .str ""

/-- A content field as it is signed. -/
def signableField (name : String) (raw : Option Json) : Json :=
  if name ∈ momentFields then raw.getD .null else textOrEmpty raw

/-- The properties that are signed. -/
def signableFields (p : Json) (contentFields : List String) : List (String × Json) :=
  [("kind", .str (str (p.get? "kind"))), ("senderAccountId", .str (str (p.get? "senderAccountId"))),
    ("signerPublicKeyB64", .str (str (p.get? "signerPublicKeyB64"))),
    ("senderDeviceId", .str (str (p.get? "senderDeviceId"))),
    ("senderAuthorityEpoch", field p "senderAuthorityEpoch")] ++
  contentFields.map fun name => (name, signableField name (p.get? name))

/-- `signableOriginalMessagePayload`. -/
def signableOriginalMessagePayload (p : Json) : Except String Json :=
  let fault := "signableOriginalMessagePayload: "
  let kind := str (p.get? "kind")
  match kindContentFields.lookup kind with
  | none => .error (fault ++ "not an OriginalMessage kind: '" ++ kind ++ "'")
  | some contentFields => do
    assert (str (p.get? "senderAccountId") ≠ "") (fault ++ "senderAccountId required")
    assert (str (p.get? "signerPublicKeyB64") ≠ "")
      (fault ++ "signerPublicKeyB64 required (it is authorship, inside the signed bytes)")
    assert (integerFrom 0 (field p "senderAuthorityEpoch")) (fault ++
      "senderAuthorityEpoch must be an integer >= 0 (F6: an unsigned epoch stamp is forgeable)")
    checkAll (contentFields.map fun name =>
      assert (name ∉ momentFields || integerFrom 1 (field p name))
        (fault ++ kind ++ " requires integer " ++ name ++ " > 0"))
    let out := obj (signableFields p contentFields)
    assert (str (out.get? "threadId") ≠ "")
      (fault ++ "threadId required (thread binding is signed semantics)")
    assert (kind ≠ messageKind || str (out.get? "messageId") ≠ "") (fault ++ "messageId required")
    assert (kind ∉ originalMessageMutationKinds || str (out.get? "targetMessageId") ≠ "")
      (fault ++ kind ++ " requires targetMessageId")
    assert (kind ∉ originalMessageMutationKinds || str (out.get? "targetFingerprint") ≠ "")
      (fault ++ kind ++ " requires targetFingerprint (mutations bind to the target fact's " ++
        "fingerprint, never messageId alone)")
    return out

section Bytes

variable {Text : Type} (c : Canonical Text) (hash : Text → String) (size : Json → Nat)

/-- `signableOriginalMessageBytes`. -/
def signableOriginalMessageBytes (p : Json) : Except String Text :=
  (signableOriginalMessagePayload p).map c.stringify

/-- `messageFingerprint`. -/
def messageFingerprint (p : Json) : Except String String :=
  (signableOriginalMessageBytes c p).map hash

/-- `accountAuthoritySigner`. -/
structure Signer (Text : Type) where
  signerPublicKeyB64 : Json
  senderDeviceId : Option Json
  certChain : Option Json
  sign : Text → Except String String

/-- `#signOriginalPayload` for a class of payloads: the wire record, beside the bytes that were
signed. -/
def signOriginalPayload (sch : Schema) (semanticFields : Json) (signer : Signer Text) (epoch : Nat) :
    Except String (Text × Json) := do
  let draft ← sch.construct size (semanticFields.spread
    [("signerPublicKeyB64", signer.signerPublicKeyB64),
      ("senderDeviceId", textOrEmpty signer.senderDeviceId),
      ("senderAuthorityEpoch", .num epoch)])
  let signableBytes ← signableOriginalMessageBytes c draft
  let contentHash ← messageFingerprint c hash draft
  let sigB64 ← signer.sign signableBytes
  let wire ← sch.construct size (draft.spread [("senderCertChain", coerceArray signer.certChain),
    ("contentHash", .str contentHash), ("sig", .str sigB64)])
  return (signableBytes, wire)

end Bytes

/-! ## Kinds -/

inductive OriginalKind
  | message
  | edit
  | tombstone
  | reaction

/-- A text that is never null. -/
def FieldSpec.isText (spec : FieldSpec) : Bool :=
  match spec.type with
  | .string _ => !spec.nullable
  | .enum _ => !spec.nullable
  | _ => false

/-- A value without parts. -/
def FieldType.isFlat : FieldType → Bool
  | .object => false
  | .array => false
  | _ => true

namespace OriginalKind

/-- The class of payloads of a kind. -/
def schema : OriginalKind → Schema
  | message => ChatMessage.schema
  | edit => ChatMessageEdit.schema
  | tombstone => ChatMessageTombstone.schema
  | reaction => ChatReaction.schema

def contentFields (k : OriginalKind) : List String := (kindContentFields.lookup k.schema.kind).getD []

/-- The fields that are signed, beside the kind. -/
def signedFields (k : OriginalKind) : List String :=
  ["senderAccountId", "signerPublicKeyB64", "senderDeviceId", "senderAuthorityEpoch"] ++
    k.contentFields

variable (k : OriginalKind)

theorem lookup_contentFields : kindContentFields.lookup k.schema.kind = some k.contentFields := by
  cases k <;> rfl

theorem trim_kind : trim k.schema.kind = k.schema.kind := by
  cases k <;> decide

theorem kind_injective {k l : OriginalKind} (h : k.schema.kind = l.schema.kind) : k = l := by
  cases k <;> cases l <;> first | rfl | exact absurd h (by decide)

theorem nodup_signedFields : ("kind" :: k.signedFields).Nodup := by
  cases k <;> decide

/-- What is added to the draft is not signed. -/
theorem signed_notMem :
    ∀ name ∈ k.signedFields, name ∉ ["senderCertChain", "contentHash", "sig"] := by
  cases k <;> decide

theorem signed_declared : ∀ name ∈ k.signedFields,
    ∃ e ∈ k.schema.fields, e.1 = name ∧ e.2.type.isFlat = true := by
  cases k <;> decide

theorem authorship_declared : ∀ name ∈ ["senderAccountId", "signerPublicKeyB64", "senderDeviceId"],
    ∃ e ∈ k.schema.fields, e.1 = name ∧ e.2.type = .string true ∧ e.2.nullable = false := by
  cases k <;> decide

theorem content_declared : ∀ name ∈ k.contentFields,
    name ∈ momentFields ∨ ∃ e ∈ k.schema.fields, e.1 = name ∧ e.2.isText = true := by
  cases k <;> decide

theorem flat_or_array : ∀ e ∈ k.schema.fields,
    e.2.type.isFlat = true ∨ e.2.type = .array ∧ e.2.required = false := by
  cases k <;> decide

theorem nullable_epoch :
    ∀ e ∈ k.schema.fields, e.2.nullable = true → e.1 = "senderAuthorityEpoch" := by
  cases k <;> decide

end OriginalKind

/-! ## What is read of a payload -/

variable {k : OriginalKind} {p q signed : Json}

/-- What is signed of a payload is made of the fields that are signed. -/
theorem signable_eq_ok (hkind : p.get? "kind" = some (.str k.schema.kind))
    (h : signableOriginalMessagePayload p = .ok signed) :
    integerFrom 0 (field p "senderAuthorityEpoch") = true ∧
      signed = .obj (signableFields p k.contentFields) := by
  have hstr : str (p.get? "kind") = k.schema.kind := by
    rw [hkind]
    exact k.trim_kind
  rw [signableOriginalMessagePayload] at h
  dsimp only at h
  rw [hstr, k.lookup_contentFields] at h
  dsimp only at h
  obtain ⟨-, h⟩ := assert_bind_eq_ok.1 h
  obtain ⟨-, h⟩ := assert_bind_eq_ok.1 h
  obtain ⟨hepoch, h⟩ := assert_bind_eq_ok.1 h
  refine ⟨hepoch, ?_⟩
  cases hmoments : checkAll (k.contentFields.map fun name =>
      assert (name ∉ momentFields || integerFrom 1 (field p name))
        ("signableOriginalMessagePayload: " ++ k.schema.kind ++ " requires integer " ++ name ++
          " > 0")) with
  | error e =>
    rw [hmoments] at h
    cases h
  | ok u =>
    rw [hmoments] at h
    obtain ⟨-, h⟩ := assert_bind_eq_ok.1 h
    obtain ⟨-, h⟩ := assert_bind_eq_ok.1 h
    obtain ⟨-, h⟩ := assert_bind_eq_ok.1 h
    obtain ⟨-, h⟩ := assert_bind_eq_ok.1 h
    exact (Except.ok.inj h).symm

/-- **Nothing else is read.** -/
theorem signable_congr (hkind : p.get? "kind" = some (.str k.schema.kind))
    (h : ∀ name ∈ "kind" :: k.signedFields, q.get? name = p.get? name) :
    signableOriginalMessagePayload q = signableOriginalMessagePayload p := by
  have hstr : str (p.get? "kind") = k.schema.kind := by
    rw [hkind]
    exact k.trim_kind
  rw [forall_mem_cons, OriginalKind.signedFields, forall_mem_append] at h
  obtain ⟨hsame, hauthorship, hcontent⟩ := h
  simp only [forall_mem_cons] at hauthorship
  obtain ⟨haccount, hsigner, hdevice, hepoch, -⟩ := hauthorship
  have hfields : signableFields q k.contentFields = signableFields p k.contentFields := by
    rw [signableFields, signableFields, hsame, haccount, hsigner, hdevice, field, field, hepoch]
    refine congrArg _ (map_congr_left fun name hname => ?_)
    rw [hcontent name hname]
  have hmoments : (k.contentFields.map fun name =>
      assert (name ∉ momentFields || integerFrom 1 (field q name))
        ("signableOriginalMessagePayload: " ++ k.schema.kind ++ " requires integer " ++ name ++
          " > 0")) = k.contentFields.map fun name =>
      assert (name ∉ momentFields || integerFrom 1 (field p name))
        ("signableOriginalMessagePayload: " ++ k.schema.kind ++ " requires integer " ++ name ++
          " > 0") := by
    refine map_congr_left fun name hname => ?_
    rw [field, field, hcontent name hname]
  unfold signableOriginalMessagePayload
  dsimp only
  rw [hsame, hstr, k.lookup_contentFields]
  dsimp only
  rw [haccount, hsigner, hmoments, hfields, field, field, hepoch]

/-! ## What coercion keeps -/

/-- A value without parts. -/
def isAtom : Json → Bool
  | .arr _ => false
  | .obj _ => false
  | _ => true

theorem sorted_eq_of_isAtom {v w : Json} (hw : isAtom w = true) : v.sorted = w.sorted ↔ v = w := by
  cases w with
  | null => cases v <;> simp [sorted]
  | bool b => exact sorted_eq_bool
  | num n => exact sorted_eq_num
  | str s => exact sorted_eq_str
  | arr items => cases hw
  | obj fields => cases hw

theorem coerceString_cases (trimmed nullable : Bool) (raw : Option Json) :
    (∃ s, coerceString trimmed nullable raw = .str s) ∨
      nullable = true ∧ coerceString trimmed nullable raw = .null := by
  have hmissing : (∃ s, (if nullable then null else .str "") = .str s) ∨
      nullable = true ∧ (if nullable then null else .str "") = .null := by
    cases nullable with
    | true => exact .inr ⟨rfl, rfl⟩
    | false => exact .inl ⟨"", rfl⟩
  rcases raw with _ | (_ | _ | _ | s | _ | _)
  case some.str =>
    cases trimmed with
    | false => exact .inl ⟨s, rfl⟩
    | true =>
      rw [coerceString_str]
      split
      · exact hmissing
      · exact .inl ⟨trim s, rfl⟩
  all_goals exact hmissing

theorem coerceEnum_cases (values : List String) (nullable : Bool) (raw : Option Json) :
    (∃ s, coerceEnum values nullable raw = .str s) ∨
      nullable = true ∧ coerceEnum values nullable raw = .null := by
  have hmissing : (∃ s, (if nullable then null else .str (values.headD "")) = .str s) ∨
      nullable = true ∧ (if nullable then null else .str (values.headD "")) = .null := by
    cases nullable with
    | true => exact .inr ⟨rfl, rfl⟩
    | false => exact .inl ⟨_, rfl⟩
  rcases raw with _ | (_ | _ | _ | s | _ | _)
  case some.str =>
    rw [coerceEnum_str]
    split
    · exact .inl ⟨s, rfl⟩
    · exact hmissing
  all_goals exact hmissing

theorem isAtom_coerceField {spec : FieldSpec} (h : spec.type.isFlat = true) (raw : Option Json) :
    isAtom (coerceField spec raw) = true := by
  have hcases : ∀ {v : Json} {nullable : Bool}, (∃ s, v = .str s) ∨ nullable = true ∧ v = .null →
      isAtom v = true := by
    rintro v nullable (⟨s, rfl⟩ | ⟨-, rfl⟩) <;> rfl
  unfold coerceField
  cases htype : spec.type with
  | string trimmed => exact hcases (coerceString_cases trimmed spec.nullable raw)
  | int =>
    dsimp only
    rw [coerceInt]
    cases toNumber raw with
    | none => cases spec.nullable <;> rfl
    | some n => rfl
  | boolean => rcases raw with _ | (_ | _ | _ | _ | _ | _) <;> rfl
  | object =>
    rw [htype] at h
    cases h
  | array =>
    rw [htype] at h
    cases h
  | enum values => exact hcases (coerceEnum_cases values spec.nullable raw)

theorem coerceField_text {spec : FieldSpec} (h : spec.isText = true) (raw : Option Json) :
    ∃ s, coerceField spec raw = .str s := by
  have hcases : ∀ {v : Json}, (∃ s, v = .str s) ∨ spec.nullable = true ∧ v = .null →
      (!spec.nullable) = true → ∃ s, v = .str s := by
    rintro v (hs | ⟨hnullable, -⟩) hnot
    · exact hs
    · rw [hnullable] at hnot
      cases hnot
  unfold FieldSpec.isText at h
  unfold coerceField
  cases htype : spec.type with
  | string trimmed =>
    rw [htype] at h
    exact hcases (coerceString_cases trimmed spec.nullable raw) h
  | enum values =>
    rw [htype] at h
    exact hcases (coerceEnum_cases values spec.nullable raw) h
  | int => rw [htype] at h; cases h
  | boolean => rw [htype] at h; cases h
  | object => rw [htype] at h; cases h
  | array => rw [htype] at h; cases h

/-- A text that is trimmed is signed as it is. -/
theorem str_coerceString (raw : Option Json) :
    Json.str (str (some (coerceString true false raw))) = coerceString true false raw := by
  rcases raw with _ | (_ | _ | _ | s | _ | _)
  case some.str =>
    rw [coerceString_str]
    split
    · exact congrArg Json.str trim_empty
    · exact congrArg Json.str (trim_trim s)
  all_goals exact congrArg Json.str trim_empty

variable {raw : Json}

/-- A field that was coerced is kept when the record is made again. -/
theorem get?_coerce_kept
    (hepoch : integerFrom 0 (field (k.schema.coerce raw) "senderAuthorityEpoch") = true)
    {name : String} {spec : FieldSpec} (hmem : (name, spec) ∈ k.schema.fields)
    (hq : q.get? name = (k.schema.coerce raw).get? name) :
    (k.schema.coerce q).get? name = (k.schema.coerce raw).get? name := by
  rw [get?_coerce hmem, hq, get?_coerce hmem]
  rcases coerceField_idem spec (raw.get? name) with hsame | ⟨-, hnullable, hnull, -⟩
  · rw [hsame]
  · -- only the epoch may be null, and it is not
    have hname : name = "senderAuthorityEpoch" := k.nullable_epoch _ hmem hnullable
    subst hname
    rw [field_coerce hmem, hnull] at hepoch
    cases hepoch

/-- What is signed of a record is what its fields are. -/
theorem signableFields_coerce : signableFields (k.schema.coerce raw) k.contentFields =
    ("kind" :: k.signedFields).map fun name => (name, field (k.schema.coerce raw) name) := by
  have hauthorship : ∀ name ∈ ["senderAccountId", "signerPublicKeyB64", "senderDeviceId"],
      Json.str (str ((k.schema.coerce raw).get? name)) = field (k.schema.coerce raw) name := by
    intro name hname
    obtain ⟨⟨name', spec⟩, hmem, hsame, htype, hnullable⟩ := k.authorship_declared name hname
    obtain rfl : name' = name := hsame
    have hcoerced : coerceField spec (raw.get? name') = coerceString true false (raw.get? name') := by
      have htrimmed : spec.type = .string true := htype
      have hnever : spec.nullable = false := hnullable
      rw [coerceField, htrimmed, hnever]
    rw [field, get?_coerce hmem, hcoerced]
    exact str_coerceString (raw.get? name')
  have hcontent : ∀ name ∈ k.contentFields,
      signableField name ((k.schema.coerce raw).get? name) = field (k.schema.coerce raw) name := by
    intro name hname
    rw [signableField]
    split
    · rfl
    · next hmoment =>
      obtain ⟨⟨name', spec⟩, hmem, hsame, htext⟩ :=
        (k.content_declared name hname).resolve_left hmoment
      obtain rfl : name' = name := hsame
      obtain ⟨s, hs⟩ := coerceField_text htext (raw.get? name')
      rw [field, get?_coerce hmem, hs]
      rfl
  have hkind : Json.str (str ((k.schema.coerce raw).get? "kind")) =
      field (k.schema.coerce raw) "kind" := by
    rw [field, get?_coerce_kind]
    exact congrArg Json.str k.trim_kind
  simp only [forall_mem_cons] at hauthorship
  obtain ⟨haccount, hsigner, hdevice, -⟩ := hauthorship
  rw [signableFields, hkind, haccount, hsigner, hdevice,
    map_congr_left fun name hname => congrArg (Prod.mk name) (hcontent name hname),
    OriginalKind.signedFields, map_cons, map_append]
  rfl

/-! ## What is sent -/

section Wire

variable {Text : Type} {c : Canonical Text} {hash : Text → String} {size : Json → Nat}
variable {semantic wire received : Json} {signer : Signer Text} {epoch : Nat} {bytes : Text}

/-- A wire record is a record of the class, and what was signed is what is signed of it. -/
theorem signOriginalPayload_eq_ok
    (h : signOriginalPayload c hash size k.schema semantic signer epoch = .ok (bytes, wire)) :
    ∃ raw signed, k.schema.construct size raw = .ok wire ∧
      signableOriginalMessagePayload wire = .ok signed ∧ c.stringify signed = bytes := by
  rw [signOriginalPayload] at h
  generalize semantic.spread _ = input at h
  cases hdraft : k.schema.construct size input with
  | error e =>
    rw [hdraft] at h
    cases h
  | ok draft =>
    cases hsigned : signableOriginalMessagePayload draft with
    | error e =>
      have hbytes : signableOriginalMessageBytes c draft = .error e := by
        rw [signableOriginalMessageBytes, hsigned]
        rfl
      rw [hdraft] at h
      dsimp only [bind, Except.bind] at h
      rw [hbytes] at h
      cases h
    | ok signed =>
      have hbytes : signableOriginalMessageBytes c draft = .ok (c.stringify signed) := by
        rw [signableOriginalMessageBytes, hsigned]
        rfl
      have hhash : messageFingerprint c hash draft = .ok (hash (c.stringify signed)) := by
        rw [messageFingerprint, hbytes]
        rfl
      rw [hdraft] at h
      dsimp only [bind, Except.bind] at h
      rw [hbytes, hhash] at h
      dsimp only at h
      cases hsig : signer.sign (c.stringify signed) with
      | error e =>
        rw [hsig] at h
        cases h
      | ok sig =>
        rw [hsig] at h
        dsimp only at h
        generalize hinput : draft.spread _ = final at h
        cases hfinal : k.schema.construct size final with
        | error e =>
          rw [hfinal] at h
          cases h
        | ok record =>
          rw [hfinal] at h
          obtain ⟨rfl, rfl⟩ := Prod.mk.inj (Except.ok.inj h)
          refine ⟨final, signed, hfinal, ?_, rfl⟩
          rw [← hsigned]
          obtain ⟨rfl, -, -⟩ := construct_eq_ok.1 hdraft
          obtain ⟨rfl, -, -⟩ := construct_eq_ok.1 hfinal
          have hepoch := (signable_eq_ok get?_coerce_kind hsigned).1
          refine signable_congr get?_coerce_kind ?_
          rw [forall_mem_cons]
          refine ⟨rfl, fun name hname => ?_⟩
          obtain ⟨⟨name', spec⟩, hmem, hsame, -⟩ := k.signed_declared name hname
          obtain rfl : name' = name := hsame
          refine get?_coerce_kept hepoch hmem ?_
          rw [← hinput]
          exact get?_spread_of_notMem (k.signed_notMem name' hname)

/-! ## What is received -/

variable {raw : Json}

/-- What is decoded has the fields that were sent. -/
theorem get?_received (hreceived : received.sorted = (k.schema.coerce raw).sorted) {name : String}
    {spec : FieldSpec} (hmem : (name, spec) ∈ k.schema.fields) (hflat : spec.type.isFlat = true) :
    received.get? name = (k.schema.coerce raw).get? name := by
  have hsame : (received.get? name).map sorted =
      ((k.schema.coerce raw).get? name).map sorted :=
    get?_of_sorted_eq nodup_coerce hreceived name
  rw [get?_coerce hmem] at hsame ⊢
  exact (map_sorted_eq fun v => sorted_eq_of_isAtom (isAtom_coerceField hflat _)).1 hsame

theorem get?_received_kind (hreceived : received.sorted = (k.schema.coerce raw).sorted) :
    received.get? "kind" = (k.schema.coerce raw).get? "kind" := by
  have hsame : (received.get? "kind").map sorted =
      ((k.schema.coerce raw).get? "kind").map sorted :=
    get?_of_sorted_eq nodup_coerce hreceived "kind"
  rw [get?_coerce_kind] at hsame ⊢
  exact (map_sorted_eq fun v => sorted_eq_str).1 hsame

theorem validate_congr (k : OriginalKind) {f g : String → Json} (h : g "channelId" = f "channelId") :
    k.schema.validate g = k.schema.validate f := by
  cases k with
  | message =>
    have hchannel : ChatMessage.validate g = ChatMessage.validate f := by
      rw [ChatMessage.validate, ChatMessage.validate, h]
    exact hchannel
  | edit => rfl
  | tombstone => rfl
  | reaction => rfl

theorem validateField_array {name : String} {spec : FieldSpec} (htype : spec.type = .array)
    (hrequired : spec.required = false) (value : Json) :
    validateField size name spec value = .ok () := by
  obtain ⟨type, required, nullable, maxLength, maxJsonBytes⟩ := spec
  subst htype hrequired
  cases value <;> rfl

/-- What is decoded is accepted as a record, with the fields that were sent. -/
theorem construct_received (h : k.schema.construct size raw = .ok wire)
    (hepoch : integerFrom 0 (field wire "senderAuthorityEpoch") = true)
    (hreceived : received.sorted = wire.sorted) :
    k.schema.construct size received = .ok (k.schema.coerce received) ∧
      ∀ name spec, (name, spec) ∈ k.schema.fields → spec.type.isFlat = true →
        (k.schema.coerce received).get? name = wire.get? name := by
  obtain ⟨rfl, hfields, hvalidate⟩ := construct_eq_ok.1 h
  have hkept : ∀ name spec, (name, spec) ∈ k.schema.fields → spec.type.isFlat = true →
      (k.schema.coerce received).get? name = (k.schema.coerce raw).get? name :=
    fun name spec hmem hflat => get?_coerce_kept hepoch hmem (get?_received hreceived hmem hflat)
  refine ⟨construct_eq_ok.2 ⟨rfl, fun name spec hmem => ?_, ?_⟩, hkept⟩
  · rcases k.flat_or_array _ hmem with hflat | ⟨htype, hrequired⟩
    · have hsame := hkept name spec hmem hflat
      rw [get?_coerce hmem, get?_coerce hmem] at hsame
      rw [Option.some_inj.1 hsame]
      exact hfields name spec hmem
    · exact validateField_array htype hrequired _
  · refine (validate_congr k ?_).trans hvalidate
    -- only a message has a channel
    cases k with
    | message =>
      exact congrArg (·.getD .null)
        (hkept "channelId" _ (mem_of_getElem? (i := 5) rfl) rfl)
    | edit => rfl
    | tombstone => rfl
    | reaction => rfl

theorem signable_received (h : k.schema.construct size raw = .ok wire)
    (hsigned : signableOriginalMessagePayload wire = .ok signed)
    (hreceived : received.sorted = wire.sorted) :
    signableOriginalMessagePayload received = .ok signed ∧
      signableOriginalMessagePayload (k.schema.coerce received) = .ok signed := by
  obtain ⟨rfl, -, -⟩ := construct_eq_ok.1 h
  have hepoch := (signable_eq_ok get?_coerce_kind hsigned).1
  have hkept := (construct_received h hepoch hreceived).2
  constructor
  · rw [← hsigned]
    refine signable_congr get?_coerce_kind ?_
    rw [forall_mem_cons]
    refine ⟨get?_received_kind hreceived, fun name hname => ?_⟩
    obtain ⟨⟨name', spec⟩, hmem, hsame, hflat⟩ := k.signed_declared name hname
    obtain rfl : name' = name := hsame
    exact get?_received hreceived hmem hflat
  · rw [← hsigned]
    refine signable_congr get?_coerce_kind ?_
    rw [forall_mem_cons]
    refine ⟨rfl, fun name hname => ?_⟩
    obtain ⟨⟨name', spec⟩, hmem, hsame, hflat⟩ := k.signed_declared name hname
    obtain rfl : name' = name := hsame
    exact hkept name' spec hmem hflat

/-! ## What a fingerprint is of -/

/-- Two wire records have the same kind, and the same value in every field that is signed. -/
def AgreeOnSigned (k : OriginalKind) (wire other : Json) : Prop :=
  wire.get? "kind" = other.get? "kind" ∧
    ∀ name ∈ k.signedFields, wire.get? name = other.get? name

variable {l : OriginalKind} {raw' wire' signed' : Json}

/-- What is signed of two records is the same exactly if the signed fields are. -/
theorem signed_sorted_iff (h : k.schema.construct size raw = .ok wire)
    (h' : l.schema.construct size raw' = .ok wire')
    (hsigned : signableOriginalMessagePayload wire = .ok signed)
    (hsigned' : signableOriginalMessagePayload wire' = .ok signed') :
    signed.sorted = signed'.sorted ↔ AgreeOnSigned k wire wire' := by
  obtain ⟨rfl, -, -⟩ := construct_eq_ok.1 h
  obtain ⟨rfl, -, -⟩ := construct_eq_ok.1 h'
  obtain ⟨-, rfl⟩ := signable_eq_ok get?_coerce_kind hsigned
  obtain ⟨-, rfl⟩ := signable_eq_ok get?_coerce_kind hsigned'
  rw [signableFields_coerce, signableFields_coerce]
  have hkeys : ∀ (j : OriginalKind) (v : Json),
      ((("kind" :: j.signedFields).map fun name => (name, field v name)).map Prod.fst).Nodup := by
    intro j v
    rw [map_map]
    exact (map_id ("kind" :: j.signedFields)).symm ▸ j.nodup_signedFields
  have hlookup : ∀ (j : OriginalKind) (v : Json), ∀ name ∈ "kind" :: j.signedFields,
      (obj (("kind" :: j.signedFields).map fun name => (name, field v name))).get? name =
        some (field v name) := fun j v name hname =>
    OrdMap.lookup_of_mem (hkeys j v) (mem_map.2 ⟨name, hname, rfl⟩)
  constructor
  · intro hsame
    have hprops := fun name => get?_of_sorted_eq (hkeys l _) hsame name
    have hkind := hprops "kind"
    rw [hlookup k _ "kind" mem_cons_self, hlookup l _ "kind" mem_cons_self] at hkind
    obtain rfl : k = l := by
      refine OriginalKind.kind_injective (str.inj ?_)
      exact (map_sorted_eq fun v => sorted_eq_str).1 hkind |> Option.some_inj.1
    refine ⟨rfl, fun name hname => ?_⟩
    have hvalue := hprops name
    rw [hlookup k _ name (mem_cons_of_mem _ hname),
      hlookup k _ name (mem_cons_of_mem _ hname)] at hvalue
    obtain ⟨⟨name', spec⟩, hmem, hname', hflat⟩ := k.signed_declared name hname
    obtain rfl : name' = name := hname'
    rw [field_coerce hmem, field_coerce hmem] at hvalue
    rw [get?_coerce hmem, get?_coerce hmem]
    exact (map_sorted_eq fun v => sorted_eq_of_isAtom (isAtom_coerceField hflat _)).1 hvalue
  · rintro ⟨hkind, hfields⟩
    obtain rfl : k = l := OriginalKind.kind_injective (str.inj (Option.some_inj.1 hkind))
    refine congrArg (fun fields => (obj fields).sorted) (map_congr_left ?_)
    rw [forall_mem_cons]
    refine ⟨rfl, fun name hname => ?_⟩
    rw [field, field, hfields name hname]

/-- **Signed originals survive the wire.** What is decoded from a wire record gives the bytes that were
signed, as it is and as the record that is made of it. Two wire records whose bytes do not collide have
the same fingerprint exactly if they agree on every field that is signed. -/
theorem originals_survive {Text : Type} (c : Json.Canonical Text) (hash : Text → String)
    (size : Json → Nat) (k l : OriginalKind) (semantic semantic' : Json) (signer signer' : Signer Text)
    (epoch epoch' : Nat) (bytes bytes' : Text) (wire wire' : Json)
    (h : signOriginalPayload c hash size k.schema semantic signer epoch = .ok (bytes, wire))
    (h' : signOriginalPayload c hash size l.schema semantic' signer' epoch' = .ok (bytes', wire'))
    (hcollision : hash bytes = hash bytes' → bytes = bytes') :
    (∀ received, c.stringify received = c.stringify wire →
      signableOriginalMessageBytes c received = .ok bytes ∧
        ∃ record, k.schema.construct size received = .ok record ∧
          signableOriginalMessageBytes c record = .ok bytes) ∧
    (messageFingerprint c hash wire = messageFingerprint c hash wire' ↔
      AgreeOnSigned k wire wire') := by
  obtain ⟨raw, signed, hwire, hsigned, rfl⟩ := signOriginalPayload_eq_ok h
  obtain ⟨raw', signed', hwire', hsigned', rfl⟩ := signOriginalPayload_eq_ok h'
  have hbytes : ∀ {p s : Json}, signableOriginalMessagePayload p = .ok s →
      signableOriginalMessageBytes c p = .ok (c.stringify s) := by
    intro p s hs
    rw [signableOriginalMessageBytes, hs]
    rfl
  constructor
  · intro received hreceived
    rw [c.canonical] at hreceived
    have hboth := signable_received hwire hsigned hreceived
    have hkind : wire.get? "kind" = some (.str k.schema.kind) := by
      rw [(construct_eq_ok.1 hwire).1]
      rfl
    have hrecord := construct_received hwire (signable_eq_ok hkind hsigned).1 hreceived
    exact ⟨hbytes hboth.1, _, hrecord.1, hbytes hboth.2⟩
  · rw [messageFingerprint, messageFingerprint, hbytes hsigned, hbytes hsigned',
      ← signed_sorted_iff hwire hwire' hsigned hsigned', ← c.canonical]
    constructor
    · exact fun hsame => hcollision (Except.ok.inj hsame)
    · intro hsame
      rw [hsame]

end Wire

/-- A message with that text, of a device of `rez:acct:a`. -/
def greeting (text : String) : Json :=
  .obj [("threadId", .str "t"), ("senderAccountId", .str "rez:acct:a"), ("messageId", .str "m"),
    ("text", .str text)]

def greetingSigner : Signer Json where
  signerPublicKeyB64 := .str "k"
  senderDeviceId := some (.str "rez:dev:a")
  certChain := none
  sign := fun _ => .ok "s"

/-- A hash that tells messages apart by their text. -/
def textHash (v : Json) : String := str (v.get? "text")

def signGreeting (text : String) : Except String (Json × Json) :=
  signOriginalPayload Canonical.sorting textHash (fun _ => 0) OriginalKind.message.schema
    (greeting text) greetingSigner 0

def greetingDraft (text : String) : Json :=
  ChatMessage.schema.coerce ((greeting text).spread [("signerPublicKeyB64", .str "k"),
    ("senderDeviceId", .str "rez:dev:a"), ("senderAuthorityEpoch", .num 0)])

def greetingBytes (text : String) : Json :=
  (obj (signableFields (greetingDraft text) OriginalKind.message.contentFields)).sorted

def greetingWire (text : String) : Json :=
  ChatMessage.schema.coerce ((greetingDraft text).spread [("senderCertChain", .arr []),
    ("contentHash", .str (textHash (greetingBytes text))), ("sig", .str "s")])

theorem signGreeting_hi : signGreeting "hi" = .ok (greetingBytes "hi", greetingWire "hi") := by
  rfl

theorem signGreeting_bye : signGreeting "bye" = .ok (greetingBytes "bye", greetingWire "bye") := by
  rfl

/-- Two messages with different texts. Each is verified as it was signed, and their fingerprints are
different. -/
theorem originals_survive_greetings :
    signableOriginalMessageBytes Json.Canonical.sorting (greetingWire "hi").sorted =
        .ok (greetingBytes "hi") ∧
      messageFingerprint Json.Canonical.sorting textHash (greetingWire "hi") ≠
        messageFingerprint Json.Canonical.sorting textHash (greetingWire "bye") := by
  have hdifferent : textHash (greetingBytes "hi") ≠ textHash (greetingBytes "bye") := by decide
  obtain ⟨hreceived, hfingerprints⟩ := originals_survive Json.Canonical.sorting textHash (fun _ => 0)
    .message .message (greeting "hi") (greeting "bye") greetingSigner greetingSigner 0 0
    (greetingBytes "hi") (greetingBytes "bye") (greetingWire "hi") (greetingWire "bye")
    signGreeting_hi signGreeting_bye (fun hsame => absurd hsame hdifferent)
  constructor
  · exact (hreceived _ rfl).1
  · intro hsame
    have htext := (hfingerprints.1 hsame).2 "text" (by decide)
    exact absurd (str.inj (Option.some_inj.1 htext)) (by decide)

end RezChat.Records
