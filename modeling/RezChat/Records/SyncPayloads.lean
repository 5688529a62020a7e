/-
Payloads that a device signs for its siblings and for a sender: `records/payloads/SiblingSyncPayloadV1.js`,
`AccountStateEventPayloadV1.js` and `MessageCommitAckV1.js`.

The sender signs what it is given, before the record coerces it, and the receiver verifies against
what the record became. For the first two the signed object is made of the fields as they are, so a
field that coercion changes breaks the signature. A commit acknowledgement makes its strings alike on
both ends, but not its integers.
-/
import RezChat.Records.Schema

set_option autoImplicit false

namespace RezChat.Records

open Inbox (trim trim_trim)
open Json (trunc)
open List Option Schema

/-- Whether a field is that text. -/
def isText (v : Json) (s : String) : Bool :=
  match v with
  | .str t => t = s
  | _ => false

def beginsWith (v : Json) (s : String) : Bool :=
  match v with
  | .str t => s.toList <+: t.toList
  | _ => false

/-- A text that is not empty. -/
def isNonEmptyText : Json → Bool
  | .str t => t ≠ ""
  | _ => false

def isObject : Json → Bool
  | .obj _ => true
  | _ => false

def itemsOf : Json → List Json
  | .arr items => items
  | _ => []

/-- An integer that is not less than that. -/
def integerFrom (least : Rat) : Json → Bool
  | .num q => q.isInt && least ≤ q
  | _ => false

/-- What is signed in place of a number: itself if it is an integer that is not less than that, and
zero otherwise. -/
def integerOrZero (least : Option Rat) : Option Json → Json
  | some (.num q) => if q.isInt && least.all (· ≤ q) then .num q else .num 0
  | _ => .num 0

def requiredText : FieldSpec := { type := .string true, required := true }

def optionalText : FieldSpec := { type := .string true }

def requiredInt : FieldSpec := { type := .int, required := true }

def optionalArray : FieldSpec := { type := .array }

/-! ## Sibling sync -/

namespace SiblingSync

def kind : String := "rez.chat.sibling-sync.v1"

def ops : List String := ["digest", "inventory", "transfer", "transferAck"]

def transferMaxFacts : Nat := 8

def inventoryMaxItems : Nat := 2000

/-- `validate`. -/
def validate (get : String → Json) : Except String Unit := do
  assert (beginsWith (get "originDeviceId") "rez:dev:")
    "SiblingSyncPayloadV1.originDeviceId must be a rez:dev: id"
  if isText (get "op") "digest" then
    assert (integerFrom 0 (get "messageCount"))
      "SiblingSyncPayloadV1 digest requires messageCount >= 0"
    assert (isNonEmptyText (get "setDigest")) "SiblingSyncPayloadV1 digest requires setDigest"
  if isText (get "op") "inventory" then
    assert ((itemsOf (get "items")).length ≤ inventoryMaxItems)
      "SiblingSyncPayloadV1 inventory exceeds 2000 items"
    assert ((itemsOf (get "items")).all fun item => isNonEmptyText (field item "fingerprint"))
      "SiblingSyncPayloadV1 inventory items require a fingerprint"
  if isText (get "op") "transfer" then
    assert (0 < (itemsOf (get "facts")).length && (itemsOf (get "facts")).length ≤ transferMaxFacts)
      "SiblingSyncPayloadV1 transfer requires 1..8 facts"
    assert ((itemsOf (get "facts")).all isObject)
      "SiblingSyncPayloadV1 transfer facts must be objects"
  if isText (get "op") "transferAck" then
    assert ((itemsOf (get "admittedFingerprints") ++ itemsOf (get "deferredFingerprints")).all
      isNonEmptyText) "SiblingSyncPayloadV1 transferAck fingerprints must be non-empty strings"

/-- `SiblingSyncPayloadV1`. -/
def schema : Schema where
  kind := kind
  fields := [("op", { type := .enum ops, required := true }), ("threadId", requiredText),
    ("originDeviceId", requiredText), ("originDevicePublicKeyB64", requiredText),
    ("issuedAtMs", requiredInt), ("messageCount", { type := .int, nullable := true }),
    ("setDigest", optionalText), ("items", optionalArray), ("replyToDigest", { type := .boolean }),
    ("facts", optionalArray), ("admittedFingerprints", optionalArray),
    ("deferredFingerprints", optionalArray), ("sig", requiredText)]
  validate := validate
  names := by decide

/-- What `signableBytes` makes the bytes of. -/
def signable (input : Json) : Json :=
  Json.object [("kind", some (.str kind)), ("op", input.get? "op"),
    ("threadId", input.get? "threadId"), ("originDeviceId", input.get? "originDeviceId"),
    ("originDevicePublicKeyB64", input.get? "originDevicePublicKeyB64"),
    ("issuedAtMs", input.get? "issuedAtMs"),
    ("messageCount", some (integerOrZero none (input.get? "messageCount"))),
    ("setDigest", some ((input.get? "setDigest").getD (.str ""))),
    ("items", some ((input.get? "items").getD (.arr []))),
    ("replyToDigest", some ((input.get? "replyToDigest").getD (.bool false))),
    ("facts", some ((input.get? "facts").getD (.arr []))),
    ("admittedFingerprints", some ((input.get? "admittedFingerprints").getD (.arr []))),
    ("deferredFingerprints", some ((input.get? "deferredFingerprints").getD (.arr [])))]

end SiblingSync

/-! ## Account state -/

namespace AccountStateEvent

def kind : String := "rez.account.state.v1"

def ops : List String :=
  ["contact.upsert", "contact.remove", "activation.baselineComplete", "activation.baselineRequest"]

/-- `OP_REQUIRED_FIELDS`. -/
def opRequiredFields : List (String × List String) :=
  [("contact.upsert", ["accountId", "relationshipState"]), ("contact.remove", ["accountId"]),
    ("activation.baselineComplete", ["activationId"]),
    ("activation.baselineRequest", ["activationId"])]

/-- `validate`. -/
def validate (get : String → Json) : Except String Unit := do
  assert (beginsWith (get "originDeviceId") "rez:dev:")
    "AccountStateEventPayloadV1.originDeviceId must be a rez:dev: id"
  let op := match get "op" with
    | .str op => op
    | _ => ""
  checkAll (((opRequiredFields.lookup op).getD []).map fun name =>
    assert (isNonEmptyText (field (get "payload") name)) ("AccountStateEventPayloadV1 " ++ op ++
      " payload." ++ name ++ " must be a non-empty string"))

/-- `AccountStateEventPayloadV1`. -/
def schema : Schema where
  kind := kind
  fields := [("op", { type := .enum ops, required := true }), ("lamport", requiredInt),
    ("originDeviceId", requiredText), ("originDevicePublicKeyB64", requiredText),
    ("payload", { type := .object, required := true, maxJsonBytes := some 4096 }),
    ("issuedAtMs", requiredInt), ("sig", requiredText)]
  validate := validate
  names := by decide

/-- What `signableBytes` makes the bytes of. -/
def signable (input : Json) : Json :=
  Json.object [("kind", some (.str kind)), ("op", input.get? "op"),
    ("lamport", input.get? "lamport"), ("originDeviceId", input.get? "originDeviceId"),
    ("originDevicePublicKeyB64", input.get? "originDevicePublicKeyB64"),
    ("payload", input.get? "payload"), ("issuedAtMs", input.get? "issuedAtMs")]

end AccountStateEvent

/-! ## Commit acknowledgements -/

namespace CommitAck

def kind : String := "rez.chat.commit-ack.v1"

/-- `validate`. -/
def validate (get : String → Json) : Except String Unit := do
  assert (integerFrom 0 (get "recipientAuthorityEpoch"))
    "MessageCommitAckV1.recipientAuthorityEpoch must be an integer >= 0"
  assert (integerFrom 1 (get "committedAtMs"))
    "MessageCommitAckV1.committedAtMs must be an integer > 0"

/-- `MessageCommitAckV1`. -/
def schema : Schema where
  kind := kind
  fields := [("messageId", requiredText), ("messageFingerprint", requiredText),
    ("threadId", requiredText), ("recipientAccountId", requiredText),
    ("recipientDeviceId", optionalText), ("recipientAuthorityEpoch", { type := .int }),
    ("signerPublicKeyB64", requiredText), ("committedAtMs", requiredInt),
    ("recipientCertChain", optionalArray), ("sig", requiredText)]
  validate := validate
  names := by decide

/-- What is signed in place of a text. -/
def textOf : Option Json → Json
  | some (.str s) => .str (trim s)
  | _ => .str ""

/-- What `signableBytes` makes the bytes of. -/
def signable (input : Json) : Json :=
  Json.object [("kind", some (.str kind)), ("messageId", some (textOf (input.get? "messageId"))),
    ("messageFingerprint", some (textOf (input.get? "messageFingerprint"))),
    ("threadId", some (textOf (input.get? "threadId"))),
    ("recipientAccountId", some (textOf (input.get? "recipientAccountId"))),
    ("recipientDeviceId", some (textOf (input.get? "recipientDeviceId"))),
    ("recipientAuthorityEpoch",
      some (integerOrZero (some 0) (input.get? "recipientAuthorityEpoch"))),
    ("signerPublicKeyB64", some (textOf (input.get? "signerPublicKeyB64"))),
    ("committedAtMs", some (integerOrZero (some 1) (input.get? "committedAtMs")))]

end CommitAck

/-! ## What coercion leaves as it is -/

/-- A text without white space at its ends. -/
def Trimmed (raw : Option Json) : Prop := ∃ s, raw = some (.str s) ∧ trim s = s

def Integral (raw : Option Json) : Prop := ∃ n : Int, raw = some (.num n)

/-- The value counts as zero where an integer is expected. -/
def CountsAsZero (raw : Option Json) : Prop := (toNumber raw).elim 0 trunc = 0

def OneOf (values : List String) (raw : Option Json) : Prop := ∃ s ∈ values, raw = some (.str s)

def IsBoolean (raw : Option Json) : Prop := ∃ b, raw = some (.bool b)

def IsArray (raw : Option Json) : Prop := ∃ items, raw = some (.arr items)

/-- The input of a sibling sync that coercion does not change in what is signed. -/
structure SiblingSync.Clean (input : Json) : Prop where
  op : OneOf ops (input.get? "op")
  threadId : Trimmed (input.get? "threadId")
  originDeviceId : Trimmed (input.get? "originDeviceId")
  originDevicePublicKeyB64 : Trimmed (input.get? "originDevicePublicKeyB64")
  issuedAtMs : Integral (input.get? "issuedAtMs")
  messageCount : Integral (input.get? "messageCount") ∨ CountsAsZero (input.get? "messageCount")
  setDigest : input.get? "setDigest" = none ∨ Trimmed (input.get? "setDigest")
  items : input.get? "items" = none ∨ IsArray (input.get? "items")
  replyToDigest : input.get? "replyToDigest" = none ∨ IsBoolean (input.get? "replyToDigest")
  facts : input.get? "facts" = none ∨ IsArray (input.get? "facts")
  admittedFingerprints : input.get? "admittedFingerprints" = none ∨
    IsArray (input.get? "admittedFingerprints")
  deferredFingerprints : input.get? "deferredFingerprints" = none ∨
    IsArray (input.get? "deferredFingerprints")

/-- The same of an account state event. -/
structure AccountStateEvent.Clean (input : Json) : Prop where
  op : OneOf ops (input.get? "op")
  lamport : Integral (input.get? "lamport")
  originDeviceId : Trimmed (input.get? "originDeviceId")
  originDevicePublicKeyB64 : Trimmed (input.get? "originDevicePublicKeyB64")
  issuedAtMs : Integral (input.get? "issuedAtMs")

/-- The same of a commit acknowledgement. -/
structure CommitAck.Clean (input : Json) : Prop where
  recipientAuthorityEpoch : Integral (input.get? "recipientAuthorityEpoch") ∨
    CountsAsZero (input.get? "recipientAuthorityEpoch")
  committedAtMs : Integral (input.get? "committedAtMs")

/-! ## What is signed and what is received, field by field -/

theorem sorted_eq_str {v : Json} {s : String} : v.sorted = .str s ↔ v = .str s := by
  cases v <;> simp [Json.sorted]

theorem sorted_eq_num {v : Json} {q : Rat} : v.sorted = .num q ↔ v = .num q := by
  cases v <;> simp [Json.sorted]

theorem sorted_eq_bool {v : Json} {b : Bool} : v.sorted = .bool b ↔ v = .bool b := by
  cases v <;> simp [Json.sorted]

theorem map_sorted_eq {raw : Option Json} {w : Json} (h : ∀ v : Json, v.sorted = w.sorted ↔ v = w) :
    raw.map Json.sorted = (some w).map Json.sorted ↔ raw = some w := by
  cases raw with
  | none => exact iff_of_false (fun h => (by cases h)) (fun h => (by cases h))
  | some v =>
    rw [map_some, map_some, some_inj, some_inj]
    exact h v

/-- A text that is sent trimmed. -/
theorem text_iff (raw : Option Json) :
    raw.map Json.sorted = (some (coerceString true false raw)).map Json.sorted ↔ Trimmed raw := by
  obtain ⟨t, ht⟩ : ∃ t, coerceString true false raw = .str t := by
    rcases raw with _ | (_ | _ | _ | s | _ | _)
    case some.str =>
      rw [coerceString_str]
      split
      · exact ⟨"", rfl⟩
      · exact ⟨trim s, rfl⟩
    all_goals exact ⟨"", rfl⟩
  rw [ht, map_sorted_eq fun v => sorted_eq_str]
  constructor
  · rintro rfl
    refine ⟨t, rfl, ?_⟩
    rw [coerceString_str] at ht
    split at ht
    · next hempty =>
      rw [hempty]
      exact Json.str.inj ht
    · exact Json.str.inj ht
  · rintro ⟨s, rfl, hs⟩
    rw [coerceString_str, hs] at ht
    split at ht
    · next hempty =>
      rw [hempty]
      exact congrArg some ht
    · exact congrArg some ht

/-- A text that may be missing. -/
theorem optionalText_iff (raw : Option Json) :
    (some (raw.getD (.str ""))).map Json.sorted =
        (some (coerceString true false raw)).map Json.sorted ↔ raw = none ∨ Trimmed raw := by
  cases raw with
  | none => exact iff_of_true rfl (.inl rfl)
  | some v =>
    rw [getD_some, text_iff (some v)]
    simp

/-- An integer. -/
theorem int_iff (raw : Option Json) :
    raw.map Json.sorted = (some (coerceInt false raw)).map Json.sorted ↔ Integral raw := by
  obtain ⟨n, hn⟩ : ∃ n : Int, coerceInt false raw = .num n := by
    rw [coerceInt]
    cases toNumber raw with
    | none => exact ⟨0, rfl⟩
    | some q => exact ⟨trunc q, rfl⟩
  rw [hn, map_sorted_eq fun v => sorted_eq_num]
  constructor
  · exact fun h => ⟨n, h⟩
  · rintro ⟨m, rfl⟩
    have hm : coerceInt false (some (.num m)) = .num (trunc m) := rfl
    rw [← hn, hm, trunc_ratCast]

/-- One of some values, of which there are some. -/
theorem enum_iff {values : List String} (hvalues : values ≠ []) (raw : Option Json) :
    raw.map Json.sorted = (some (coerceEnum values false raw)).map Json.sorted ↔
      OneOf values raw := by
  obtain ⟨t, ht, hmem⟩ : ∃ t, coerceEnum values false raw = .str t ∧ t ∈ values := by
    have hhead : values.headD "" ∈ values := by
      cases values with
      | nil => exact absurd rfl hvalues
      | cons value values => exact mem_cons_self
    rcases raw with _ | (_ | _ | _ | s | _ | _)
    case some.str =>
      rw [coerceEnum_str]
      split
      · next hs => exact ⟨s, rfl, hs⟩
      · exact ⟨_, rfl, hhead⟩
    all_goals exact ⟨_, rfl, hhead⟩
  rw [ht, map_sorted_eq fun v => sorted_eq_str]
  constructor
  · exact fun h => ⟨t, hmem, h⟩
  · rintro ⟨s, hs, rfl⟩
    rw [coerceEnum_str, if_pos hs] at ht
    exact congrArg some ht

/-- A flag that may be missing. -/
theorem boolean_iff (raw : Option Json) :
    (some (raw.getD (.bool false))).map Json.sorted =
        (some (coerceBoolean raw)).map Json.sorted ↔ raw = none ∨ IsBoolean raw := by
  cases raw with
  | none => exact iff_of_true rfl (.inl rfl)
  | some v => cases v <;> simp [coerceBoolean, IsBoolean, Json.sorted]

/-- A list that may be missing. -/
theorem array_iff (raw : Option Json) :
    (some (raw.getD (.arr []))).map Json.sorted =
        (some (coerceArray raw)).map Json.sorted ↔ raw = none ∨ IsArray raw := by
  cases raw with
  | none => exact iff_of_true rfl (.inl rfl)
  | some v => cases v <;> simp [coerceArray, IsArray, Json.sorted]

/-- The integer that a value counts as. -/
def counted (raw : Option Json) : Int := (toNumber raw).elim 0 trunc

theorem coerceInt_eq_counted (raw : Option Json) : coerceInt false raw = .num (counted raw) := by
  rw [coerceInt, counted]
  cases toNumber raw with
  | none => rfl
  | some q => rfl

/-- A nullable integer that is sent and made a record again. -/
theorem coerceInt_twice (raw : Option Json) :
    coerceInt true (some (coerceInt true raw)) = .num (counted raw) := by
  have hnumber : ∀ q, coerceInt true (some (.num q)) = .num (trunc q) := fun _ => rfl
  rw [counted]
  cases hraw : toNumber raw with
  | none =>
    have hnull : coerceInt true raw = .null := by
      rw [coerceInt, hraw]
      rfl
    rw [hnull]
    rfl
  | some q =>
    have hnum : coerceInt true raw = .num (trunc q) := by
      rw [coerceInt, hraw]
    rw [hnum, hnumber, trunc_ratCast]
    rfl

theorem isInt_iff {q : Rat} : q.isInt = true ↔ ∃ n : Int, q = n := by
  rw [Rat.isInt, beq_iff_eq]
  constructor
  · exact fun h => ⟨q.num, Rat.ext rfl h⟩
  · rintro ⟨n, rfl⟩
    rfl

/-- An integer that is signed as zero if it is none. -/
theorem integerOrZero_iff {least : Option Rat} {raw : Option Json}
    (hleast : least.all (· ≤ (counted raw : Rat)) = true) :
    (some (integerOrZero least raw)).map Json.sorted =
        (some (integerOrZero least (some (.num (counted raw))))).map Json.sorted ↔
      Integral raw ∨ CountsAsZero raw := by
  have hreceived : integerOrZero least (some (.num (counted raw))) = .num (counted raw) := by
    rw [integerOrZero, isInt_iff.2 ⟨_, rfl⟩, hleast]
    rfl
  rw [hreceived, map_sorted_eq fun v => sorted_eq_num, some_inj]
  by_cases hraw : Integral raw
  · obtain ⟨n, rfl⟩ := hraw
    have hn : counted (some (.num n)) = n := trunc_ratCast n
    rw [hn] at hleast ⊢
    rw [integerOrZero, isInt_iff.2 ⟨_, rfl⟩, hleast]
    exact iff_of_true rfl (.inl ⟨n, rfl⟩)
  · have hzero : integerOrZero least raw = .num 0 := by
      rcases raw with _ | (_ | _ | q | _ | _ | _)
      case some.num =>
        have hq : q.isInt = false := by
          rw [← Bool.not_eq_true, isInt_iff]
          rintro ⟨n, rfl⟩
          exact hraw ⟨n, rfl⟩
        rw [integerOrZero, hq]
        rfl
      all_goals rfl
    rw [hzero, Json.num.injEq, or_iff_right hraw]
    constructor
    · exact fun h => (Rat.intCast_inj.1 h).symm
    · intro h
      have hcounted : counted raw = 0 := h
      rw [hcounted]
      rfl

theorem textOf_eq_coerceString (raw : Option Json) :
    CommitAck.textOf raw = coerceString true false raw := by
  rcases raw with _ | (_ | _ | _ | s | _ | _)
  case some.str =>
    rw [coerceString_str, CommitAck.textOf]
    split
    · next h =>
      rw [h]
      rfl
    · rfl
  all_goals rfl

/-- An object that is not missing. -/
theorem object_eq {raw : Option Json} (h : isObject (coerceObject raw) = true) :
    raw = some (coerceObject raw) := by
  rcases raw with _ | (_ | _ | _ | _ | _ | _) <;> first | rfl | cases h

/-! ## What is received -/

theorem assert_bind_eq_ok {α : Type} {holds : Bool} {message : String} {rest : Except String α}
    {a : α} : (assert holds message >>= fun _ => rest) = .ok a ↔ holds = true ∧ rest = .ok a := by
  cases holds with
  | true => exact (and_iff_right rfl).symm
  | false => exact iff_of_false (fun h => (by cases h)) (fun h => (by cases h.1))

theorem assert_eq_ok {holds : Bool} {message : String} :
    assert holds message = .ok () ↔ holds = true := by
  cases holds with
  | true => exact iff_of_true rfl rfl
  | false => exact iff_of_false (fun h => (by cases h)) (fun h => (by cases h))

variable {Text : Type} (c : Json.Canonical Text) {size : Json → Nat} {raw record : Json}

/-- Which event is the same to its receiver as to its sender. -/
theorem AccountStateEvent.agrees_iff (h : schema.construct size raw = .ok record) :
    ∃ received, schema.construct size record = .ok received ∧
      (c.stringify (signable raw) = c.stringify (signable received) ↔ Clean raw) := by
  have hagain : schema.construct size record = .ok record :=
    construct_strict h fun name spec hmem => by
      simp only [schema, mem_cons, Prod.mk.injEq, not_mem_nil, or_false] at hmem
      rcases hmem with ⟨-, rfl⟩ | ⟨-, rfl⟩ | ⟨-, rfl⟩ | ⟨-, rfl⟩ | ⟨-, rfl⟩ | ⟨-, rfl⟩ | ⟨-, rfl⟩ <;> rfl
  obtain ⟨rfl, hfields, -⟩ := construct_eq_ok.1 h
  have hop : (schema.coerce raw).get? "op" = some (coerceEnum ops false (raw.get? "op")) :=
    (get?_coerce_at schema raw 0 rfl :)
  have hlamport : (schema.coerce raw).get? "lamport" = some (coerceInt false (raw.get? "lamport")) :=
    (get?_coerce_at schema raw 1 rfl :)
  have hdevice : (schema.coerce raw).get? "originDeviceId" =
      some (coerceString true false (raw.get? "originDeviceId")) :=
    (get?_coerce_at schema raw 2 rfl :)
  have hkey : (schema.coerce raw).get? "originDevicePublicKeyB64" =
      some (coerceString true false (raw.get? "originDevicePublicKeyB64")) :=
    (get?_coerce_at schema raw 3 rfl :)
  have hpayload : (schema.coerce raw).get? "payload" = raw.get? "payload" := by
    have hcoerced : (schema.coerce raw).get? "payload" = some (coerceObject (raw.get? "payload")) :=
      (get?_coerce_at schema raw 4 rfl :)
    have hchecked := hfields "payload" _ (mem_of_getElem? (i := 4) rfl)
    rw [hcoerced]
    refine (object_eq ?_).symm
    -- a payload that is no object is refused
    rcases hraw : raw.get? "payload" with _ | (_ | _ | _ | _ | _ | _)
    case some.obj => rfl
    all_goals
      rw [hraw] at hchecked
      cases hchecked
  have hissued : (schema.coerce raw).get? "issuedAtMs" =
      some (coerceInt false (raw.get? "issuedAtMs")) :=
    (get?_coerce_at schema raw 5 rfl :)
  refine ⟨schema.coerce raw, hagain, ?_⟩
  rw [c.canonical, signable, signable]
  refine (Json.object_sorted_iff ?_ ?_).trans ?_
  · rfl
  · simp
  rw [hop, hlamport, hdevice, hkey, hpayload, hissued]
  simp only [forall₂_cons, forall₂_nil_right_iff, int_iff, text_iff]
  rw [enum_iff (by decide)]
  constructor
  · rintro ⟨-, hop, hlamport, hdevice, hkey, -, hissued, -⟩
    exact ⟨hop, hlamport, hdevice, hkey, hissued⟩
  · rintro ⟨hop, hlamport, hdevice, hkey, hissued⟩
    exact ⟨trivial, hop, hlamport, hdevice, hkey, trivial, hissued, trivial⟩

/-- Which acknowledgement is the same to its receiver as to its sender. -/
theorem CommitAck.agrees_iff (h : schema.construct size raw = .ok record) :
    ∃ received, schema.construct size record = .ok received ∧
      (c.stringify (signable raw) = c.stringify (signable received) ↔ Clean raw) := by
  have hagain : schema.construct size record = .ok record :=
    construct_strict h fun name spec hmem => by
      simp only [schema, mem_cons, Prod.mk.injEq, not_mem_nil, or_false] at hmem
      rcases hmem with ⟨-, rfl⟩ | ⟨-, rfl⟩ | ⟨-, rfl⟩ | ⟨-, rfl⟩ | ⟨-, rfl⟩ | ⟨-, rfl⟩ | ⟨-, rfl⟩ |
        ⟨-, rfl⟩ | ⟨-, rfl⟩ | ⟨-, rfl⟩ <;> rfl
  obtain ⟨rfl, -, hvalidate⟩ := construct_eq_ok.1 h
  have hepoch : (schema.coerce raw).get? "recipientAuthorityEpoch" =
      some (.num (counted (raw.get? "recipientAuthorityEpoch"))) := by
    rw [← coerceInt_eq_counted]
    exact (get?_coerce_at schema raw 5 rfl :)
  have hcommitted : (schema.coerce raw).get? "committedAtMs" =
      some (.num (counted (raw.get? "committedAtMs"))) := by
    rw [← coerceInt_eq_counted]
    exact (get?_coerce_at schema raw 7 rfl :)
  have htext : ∀ (i : Nat) (name : String) (spec : FieldSpec),
      schema.fields[i]? = some (name, spec) →
      coerceField spec (raw.get? name) = coerceString true false (raw.get? name) →
        textOf ((schema.coerce raw).get? name) = textOf (raw.get? name) := by
    intro i name spec hi hspec
    rw [get?_coerce_at schema raw i hi, hspec, textOf_eq_coerceString,
      textOf_eq_coerceString, coerceString_idem]
  obtain ⟨hepochFrom, hcommittedFrom⟩ := assert_bind_eq_ok.1 hvalidate
  rw [assert_eq_ok, field, hcommitted, getD_some, integerFrom, Bool.and_eq_true]
    at hcommittedFrom
  rw [field, hepoch, getD_some, integerFrom, Bool.and_eq_true] at hepochFrom
  have hepochLeast : (some (0 : Rat)).all
      (· ≤ (counted (raw.get? "recipientAuthorityEpoch") : Rat)) = true := hepochFrom.2
  have hcommittedLeast : (some (1 : Rat)).all
      (· ≤ (counted (raw.get? "committedAtMs") : Rat)) = true := hcommittedFrom.2
  refine ⟨schema.coerce raw, hagain, ?_⟩
  rw [c.canonical, signable, signable]
  refine (Json.object_sorted_iff ?_ ?_).trans ?_
  · rfl
  · simp
  rw [htext 0 "messageId" requiredText rfl rfl, htext 1 "messageFingerprint" requiredText rfl rfl,
    htext 2 "threadId" requiredText rfl rfl, htext 3 "recipientAccountId" requiredText rfl rfl,
    htext 4 "recipientDeviceId" optionalText rfl rfl,
    htext 6 "signerPublicKeyB64" requiredText rfl rfl, hepoch, hcommitted]
  simp only [forall₂_cons, forall₂_nil_right_iff]
  rw [integerOrZero_iff hepochLeast, integerOrZero_iff hcommittedLeast]
  -- a moment that counts as zero is refused
  have hnotZero : ¬ CountsAsZero (raw.get? "committedAtMs") := by
    intro hzero
    have hcounted : counted (raw.get? "committedAtMs") = 0 := hzero
    rw [hcounted] at hcommittedLeast
    exact absurd hcommittedLeast (by decide)
  rw [or_iff_left hnotZero]
  constructor
  · rintro ⟨-, -, -, -, -, -, hepoch, -, hcommitted, -⟩
    exact ⟨hepoch, hcommitted⟩
  · rintro ⟨hepoch, hcommitted⟩
    exact ⟨trivial, trivial, trivial, trivial, trivial, trivial, hepoch, trivial, hcommitted,
      trivial⟩

/-! ### Sibling sync -/

namespace SiblingSync

theorem validate_congr {f g : String → Json}
    (h : ∀ name ∈ ["originDeviceId", "op", "setDigest", "items", "facts", "admittedFingerprints",
      "deferredFingerprints"], g name = f name)
    (hcount : isText (f "op") "digest" = true → g "messageCount" = f "messageCount") :
    validate g = validate f := by
  simp only [forall_mem_cons] at h
  obtain ⟨hdevice, hop, hdigest, hitems, hfacts, hadmitted, hdeferred, -⟩ := h
  unfold validate
  rw [hdevice, hop, hdigest, hitems, hfacts, hadmitted, hdeferred]
  by_cases hdigest : isText (f "op") "digest" = true
  · rw [hcount hdigest]
  · rw [if_neg hdigest, if_neg hdigest]

/-- The messages of a digest are counted. -/
theorem messageCount_of_validate {f : String → Json} (h : validate f = .ok ())
    (hdigest : isText (f "op") "digest" = true) : integerFrom 0 (f "messageCount") = true := by
  simp only [validate, hdigest, if_true, assert_bind_eq_ok] at h
  exact h.2.1

/-- Which sibling sync is the same to its receiver as to its sender. -/
theorem agrees_iff (h : schema.construct size raw = .ok record) :
    ∃ received, schema.construct size record = .ok received ∧
      (c.stringify (signable raw) = c.stringify (signable received) ↔ Clean raw) := by
  obtain ⟨rfl, -, hvalidate⟩ := construct_eq_ok.1 h
  have hget : ∀ (i : Nat) (name : String) (spec : FieldSpec),
      schema.fields[i]? = some (name, spec) → spec.nullable = false →
        (schema.coerce (schema.coerce raw)).get? name = some (coerceField spec (raw.get? name)) :=
    fun i _ _ hi hnullable => get?_coerce_twice schema raw i hi hnullable
  have hfield : ∀ (i : Nat) (name : String) (spec : FieldSpec),
      schema.fields[i]? = some (name, spec) → spec.nullable = false →
        field (schema.coerce (schema.coerce raw)) name = field (schema.coerce raw) name := by
    intro i name spec hi hnullable
    rw [field, field, hget i name spec hi hnullable, get?_coerce_at schema raw i hi]
  have honce : (schema.coerce raw).get? "messageCount" =
      some (coerceInt true (raw.get? "messageCount")) :=
    (get?_coerce_at schema raw 5 rfl :)
  have hcount : (schema.coerce (schema.coerce raw)).get? "messageCount" =
      some (.num (counted (raw.get? "messageCount"))) := by
    have htwice : (schema.coerce (schema.coerce raw)).get? "messageCount" =
        some (coerceInt true ((schema.coerce raw).get? "messageCount")) :=
      (get?_coerce_at schema (schema.coerce raw) 5 rfl :)
    rw [htwice, honce, coerceInt_twice]
  have hvalidateAgain : validate (field (schema.coerce (schema.coerce raw))) = .ok () := by
    refine (validate_congr (f := field (schema.coerce raw)) ?_ ?_).trans hvalidate
    · simp only [forall_mem_cons]
      exact ⟨hfield 2 _ _ rfl rfl, hfield 0 _ _ rfl rfl, hfield 6 _ _ rfl rfl, hfield 7 _ _ rfl rfl,
        hfield 9 _ _ rfl rfl, hfield 10 _ _ rfl rfl, hfield 11 _ _ rfl rfl, fun _ h => by cases h⟩
    · intro hdigest
      have hinteger := messageCount_of_validate hvalidate hdigest
      rw [field, honce, getD_some, coerceInt] at hinteger
      rw [field, field, hcount, honce, coerceInt, counted]
      cases hnumber : toNumber (raw.get? "messageCount") with
      | none =>
        rw [hnumber] at hinteger
        cases hinteger
      | some q => rfl
  have hagain : schema.construct size (schema.coerce raw) =
      .ok (schema.coerce (schema.coerce raw)) := by
    refine construct_coerced h (fun name spec hmem hnull => ?_) hvalidateAgain
    simp only [schema, mem_cons, Prod.mk.injEq, not_mem_nil, or_false] at hmem
    rcases hmem with ⟨-, rfl⟩ | ⟨-, rfl⟩ | ⟨-, rfl⟩ | ⟨-, rfl⟩ | ⟨-, rfl⟩ | ⟨-, rfl⟩ | ⟨-, rfl⟩ |
      ⟨-, rfl⟩ | ⟨-, rfl⟩ | ⟨-, rfl⟩ | ⟨-, rfl⟩ | ⟨-, rfl⟩ | ⟨-, rfl⟩ <;> first | rfl | cases hnull
  have hleast : (none : Option Rat).all (· ≤ (counted (raw.get? "messageCount") : Rat)) = true := rfl
  refine ⟨_, hagain, ?_⟩
  rw [c.canonical, signable, signable]
  refine (Json.object_sorted_iff ?_ ?_).trans ?_
  · rfl
  · simp
  rw [hget 0 "op" { type := .enum ops, required := true } rfl rfl,
    hget 1 "threadId" requiredText rfl rfl, hget 2 "originDeviceId" requiredText rfl rfl,
    hget 3 "originDevicePublicKeyB64" requiredText rfl rfl, hget 4 "issuedAtMs" requiredInt rfl rfl,
    hcount, hget 6 "setDigest" optionalText rfl rfl, hget 7 "items" optionalArray rfl rfl,
    hget 8 "replyToDigest" { type := .boolean } rfl rfl, hget 9 "facts" optionalArray rfl rfl,
    hget 10 "admittedFingerprints" optionalArray rfl rfl,
    hget 11 "deferredFingerprints" optionalArray rfl rfl]
  simp only [forall₂_cons, forall₂_nil_right_iff, getD_some, coerceField,
    requiredText, optionalText, requiredInt, optionalArray, text_iff, optionalText_iff, int_iff, array_iff, boolean_iff]
  rw [enum_iff (by decide), integerOrZero_iff hleast]
  constructor
  · rintro ⟨-, hop, hthread, hdevice, hkey, hissued, hcount, hdigest, hitems, hreply, hfacts, hadmitted,
      hdeferred, -⟩
    exact ⟨hop, hthread, hdevice, hkey, hissued, hcount, hdigest, hitems, hreply, hfacts, hadmitted,
      hdeferred⟩
  · rintro ⟨hop, hthread, hdevice, hkey, hissued, hcount, hdigest, hitems, hreply, hfacts, hadmitted,
      hdeferred⟩
    exact ⟨trivial, hop, hthread, hdevice, hkey, hissued, hcount, hdigest, hitems, hreply, hfacts,
      hadmitted, hdeferred, trivial⟩

end SiblingSync

/-! ## All three -/

/-- A contact is removed, by that device. -/
def removal (originDeviceId : String) : Json :=
  .obj [("op", .str "contact.remove"), ("lamport", .num 1), ("originDeviceId", .str originDeviceId),
    ("originDevicePublicKeyB64", .str "k"), ("payload", .obj [("accountId", .str "rez:acct:b")]),
    ("issuedAtMs", .num 1), ("sig", .str "s")]

theorem construct_removal : AccountStateEvent.schema.construct (fun _ => 0) (removal " rez:dev:a") =
    .ok (AccountStateEvent.schema.coerce (removal " rez:dev:a")) := by
  rfl

end RezChat.Records
