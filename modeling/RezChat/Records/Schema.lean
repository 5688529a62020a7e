/-
Records that are coerced by a schema (`records/SchemaRecord.js` and `records/WirePayloadRecord.js`).

A record is made from any object: each field is coerced to the type that the schema gives it, and then
the record is validated. What has been coerced once is not changed when it is coerced again
(`coerceField_idem`), with one exception: a nullable integer that is not there becomes null, and null
becomes zero.

Options of a schema that no payload here uses are left out.
-/
import RezChat.Contacts.Store
import RezChat.Inbox.Frame
import RezChat.Lib.Json

set_option autoImplicit false

namespace RezChat.Records

open Inbox (trim trim_trim)
open Contacts (utf16Length)
open Json (trunc)

/-! ## Numbers -/

/-- `Number` of the text of a value that is an element of an array. -/
def elementNumber : Json → Option Rat
  | .null => some 0
  | .bool _ => none
  | .num q => some q
  | .str s => Json.literalOf (trim s).toList
  | .arr [] => some 0
  | .arr [v] => elementNumber v
  | .arr _ => none
  | .obj _ => none

/-- `Number`, with `none` for what is not finite. -/
def toNumber : Option Json → Option Rat
  | none => none
  | some .null => some 0
  | some (.bool b) => some (if b then 1 else 0)
  | some (.num q) => some q
  | some (.str s) => Json.literalOf (trim s).toList
  | some (.arr items) => elementNumber (.arr items)
  | some (.obj _) => none

/-- `Number.isInteger`. -/
def isInteger : Json → Bool
  | .num q => q.isInt
  | _ => false

/-! ## Fields -/

inductive FieldType
  | string (trim : Bool)
  | int
  | boolean
  | object
  | array
  | enum (values : List String)
deriving DecidableEq

structure FieldSpec where
  type : FieldType
  required : Bool := false
  nullable : Bool := false
  maxLength : Option Nat := none
  maxJsonBytes : Option Nat := none

/-- `coerceString`. -/
def coerceString (trimmed nullable : Bool) : Option Json → Json
  | some (.str s) =>
    if ¬ trimmed then .str s
    else if trim s = "" then (if nullable then .null else .str "")
    else .str (trim s)
  | _ => if nullable then .null else .str ""

/-- `coerceInt`. -/
def coerceInt (nullable : Bool) (raw : Option Json) : Json :=
  match toNumber raw with
  | none => if nullable then .null else .num 0
  | some q => .num (trunc q)

def coerceBoolean : Option Json → Json
  | some (.bool b) => .bool b
  | _ => .bool false

/-- `coerceObject`. -/
def coerceObject : Option Json → Json
  | some (.obj fields) => .obj fields
  | _ => .null

/-- `coerceArray`. -/
def coerceArray : Option Json → Json
  | some (.arr items) => .arr items
  | _ => .arr []

/-- `coerceEnum`. What is not among the values becomes the first of them. -/
def coerceEnum (values : List String) (nullable : Bool) : Option Json → Json
  | some (.str s) =>
    if s ∈ values then .str s
    else if nullable then .null
    else .str (values.headD "")
  | _ => if nullable then .null else .str (values.headD "")

/-- `coerceField`. -/
def coerceField (spec : FieldSpec) (raw : Option Json) : Json :=
  match spec.type with
  | .string trimmed => coerceString trimmed spec.nullable raw
  | .int => coerceInt spec.nullable raw
  | .boolean => coerceBoolean raw
  | .object => coerceObject raw
  | .array => coerceArray raw
  | .enum values => coerceEnum values spec.nullable raw

/-- `assert`. -/
def assert (holds : Bool) (message : String) : Except String Unit :=
  if holds then .ok () else .error message

/-- What is required of a field. -/
def checkRequired (type : FieldType) (name : String) (value : Json) : Except String Unit :=
  match type with
  | .string _ =>
    assert (match value with | .str s => s ≠ "" | _ => false) (name ++ " required")
  | .int => assert (match value with | .num q => 0 < q | _ => false) (name ++ " > 0 required")
  | .boolean => .ok ()
  | .object =>
    assert (match value with | .obj _ => true | .arr _ => true | _ => false) (name ++ " required")
  | .array => assert (match value with | .arr items => items.length > 0 | _ => false)
      (name ++ " required (non-empty array)")
  | .enum values => assert (match value with | .str s => s ∈ values | _ => false)
      (name ++ " must be one of " ++ "|".intercalate values ++ ", got '" ++
        (match value with | .str s => s | _ => "null") ++ "'")

/-- `validateField`, with the length of `JSON.stringify`. -/
def validateField (size : Json → Nat) (name : String) (spec : FieldSpec) (value : Json) :
    Except String Unit := do
  if spec.required then checkRequired spec.type name value
  match spec.type, spec.maxLength, value with
  | .string _, some limit, .str s =>
    assert (utf16Length s ≤ limit) (name ++ " exceeds " ++ toString limit ++ " chars")
  | _, _, _ => .ok ()
  match spec.type, spec.maxJsonBytes, value with
  | .object, some limit, .obj fields =>
    assert (size (.obj fields) ≤ limit) (name ++ " exceeds " ++ toString limit ++ "B limit")
  | _, _, _ => .ok ()
  match spec.type, spec.required, value with
  | .enum values, false, .str s =>
    assert (s = "" || s ∈ values)
      (name ++ " must be one of " ++ "|".intercalate values ++ ", got '" ++ s ++ "'")
  | _, _, _ => .ok ()

/-! ## Records -/

/-- A class of wire payloads: its kind, its schema, and what its own `validate` checks besides. -/
structure Schema where
  kind : String
  fields : List (String × FieldSpec)
  validate : (String → Json) → Except String Unit
  names : ("kind" :: fields.map Prod.fst).Nodup

/-- All checks, in order. -/
def checkAll : List (Except String Unit) → Except String Unit
  | [] => .ok ()
  | check :: checks => do
    check
    checkAll checks

/-- A field of a record. -/
def field (record : Json) (name : String) : Json := (record.get? name).getD .null

namespace Schema

/-- The record with its fields coerced, as `toJSON` gives it. -/
def coerce (sch : Schema) (raw : Json) : Json :=
  .obj (("kind", .str sch.kind) ::
    sch.fields.map fun (name, spec) => (name, coerceField spec (raw.get? name)))

/-- `new`, up to `toJSON`. -/
def construct (sch : Schema) (size : Json → Nat) (raw : Json) : Except String Json := do
  let record := sch.coerce raw
  checkAll (sch.fields.map fun (name, spec) => validateField size name spec (field record name))
  sch.validate (field record)
  return record

end Schema

/-! ## What is coerced twice -/

theorem trunc_ratCast (n : Int) : trunc (n : Rat) = n := Json.trunc_intCast n

theorem coerceString_str (nullable : Bool) (s : String) :
    coerceString true nullable (some (.str s)) =
      if trim s = "" then (if nullable then .null else .str "") else .str (trim s) := by
  unfold coerceString
  dsimp only
  rw [if_neg (by decide)]

theorem trim_empty : trim "" = "" := by decide

theorem coerceString_missing (trimmed nullable : Bool) :
    coerceString trimmed nullable (some (if nullable then .null else .str "")) =
      if nullable then .null else .str "" := by
  cases nullable with
  | true => rfl
  | false =>
    cases trimmed with
    | false => rfl
    | true => exact (coerceString_str false "").trans (if_pos trim_empty)

theorem coerceString_idem (trimmed nullable : Bool) (raw : Option Json) :
    coerceString trimmed nullable (some (coerceString trimmed nullable raw)) =
      coerceString trimmed nullable raw := by
  have hmissing : (∀ s, raw ≠ some (.str s)) →
      coerceString trimmed nullable raw = if nullable then .null else .str "" := by
    intro hraw
    unfold coerceString
    split
    · next s => exact absurd rfl (hraw s)
    · rfl
  by_cases hraw : ∃ s, raw = some (.str s)
  · obtain ⟨s, rfl⟩ := hraw
    cases trimmed with
    | false => rfl
    | true =>
      rw [coerceString_str]
      by_cases hs : trim s = ""
      · rw [if_pos hs]
        exact coerceString_missing true nullable
      · rw [if_neg hs, coerceString_str, trim_trim, if_neg hs]
  · rw [hmissing fun s h => hraw ⟨s, h⟩]
    exact coerceString_missing trimmed nullable

theorem coerceInt_idem (nullable : Bool) (raw : Option Json) :
    coerceInt nullable (some (coerceInt nullable raw)) = coerceInt nullable raw ∨
      (nullable = true ∧ coerceInt nullable raw = .null ∧
        coerceInt nullable (some (coerceInt nullable raw)) = .num 0) := by
  have hnumber : ∀ q, coerceInt nullable (some (.num q)) = .num (trunc q) := fun _ => rfl
  cases hraw : toNumber raw with
  | none =>
    have hcoerced : coerceInt nullable raw = if nullable then .null else .num 0 := by
      rw [coerceInt, hraw]
    rw [hcoerced]
    cases nullable with
    | false => exact .inl rfl
    | true => exact .inr ⟨rfl, rfl, rfl⟩
  | some q =>
    have hcoerced : coerceInt nullable raw = .num (trunc q) := by
      rw [coerceInt, hraw]
    rw [hcoerced, hnumber, trunc_ratCast]
    exact .inl rfl

theorem coerceEnum_str (values : List String) (nullable : Bool) (s : String) :
    coerceEnum values nullable (some (.str s)) =
      if s ∈ values then .str s else if nullable then .null else .str (values.headD "") := rfl

theorem coerceEnum_missing (values : List String) (nullable : Bool) :
    coerceEnum values nullable (some (if nullable then .null else .str (values.headD ""))) =
      if nullable then .null else .str (values.headD "") := by
  cases nullable with
  | true => rfl
  | false => exact (coerceEnum_str values false _).trans (ite_self _)

theorem coerceEnum_idem (values : List String) (nullable : Bool) (raw : Option Json) :
    coerceEnum values nullable (some (coerceEnum values nullable raw)) =
      coerceEnum values nullable raw := by
  have hmissing : (∀ s, raw ≠ some (.str s)) →
      coerceEnum values nullable raw = if nullable then .null else .str (values.headD "") := by
    intro hraw
    unfold coerceEnum
    split
    · next s => exact absurd rfl (hraw s)
    · rfl
  by_cases hraw : ∃ s, raw = some (.str s)
  · obtain ⟨s, rfl⟩ := hraw
    rw [coerceEnum_str]
    by_cases hs : s ∈ values
    · rw [if_pos hs, coerceEnum_str, if_pos hs]
    · rw [if_neg hs]
      exact coerceEnum_missing values nullable
  · rw [hmissing fun s h => hraw ⟨s, h⟩]
    exact coerceEnum_missing values nullable

/-- **Coercing twice.** Only a nullable integer that is null is changed. -/
theorem coerceField_idem (spec : FieldSpec) (raw : Option Json) :
    coerceField spec (some (coerceField spec raw)) = coerceField spec raw ∨
      (spec.type = .int ∧ spec.nullable = true ∧ coerceField spec raw = .null ∧
        coerceField spec (some (coerceField spec raw)) = .num 0) := by
  unfold coerceField
  cases htype : spec.type with
  | string trimmed => exact .inl (coerceString_idem trimmed spec.nullable raw)
  | int => exact (coerceInt_idem spec.nullable raw).imp id fun h => ⟨rfl, h⟩
  | boolean => rcases raw with _ | (_ | _ | _ | _ | _ | _) <;> exact .inl rfl
  | object => rcases raw with _ | (_ | _ | _ | _ | _ | _) <;> exact .inl rfl
  | array => rcases raw with _ | (_ | _ | _ | _ | _ | _) <;> exact .inl rfl
  | enum values => exact .inl (coerceEnum_idem values spec.nullable raw)

/-! ## What a record has -/

theorem checkAll_eq_ok {checks : List (Except String Unit)} :
    checkAll checks = .ok () ↔ ∀ check ∈ checks, check = .ok () := by
  induction checks with
  | nil => exact iff_of_true rfl fun _ h => (nomatch h)
  | cons check checks ih =>
    rw [List.forall_mem_cons, ← ih]
    cases check with
    | error e => exact ⟨fun h => (by cases h), fun h => (by cases h.1)⟩
    | ok u => exact ⟨fun h => ⟨rfl, h⟩, fun h => h.2⟩

namespace Schema

variable {sch : Schema} {size : Json → Nat} {raw record : Json}

variable {name : String} {spec : FieldSpec}

theorem get?_coerce (h : (name, spec) ∈ sch.fields) :
    (sch.coerce raw).get? name = some (coerceField spec (raw.get? name)) := by
  refine OrdMap.lookup_of_mem ?_ (List.mem_cons_of_mem _ (List.mem_map.2 ⟨(name, spec), h, rfl⟩))
  rw [List.map_cons, List.map_map]
  exact sch.names

/-- A field by its place in the schema. -/
theorem get?_coerce_at (sch : Schema) (raw : Json) (i : Nat)
    (h : sch.fields[i]? = some (name, spec)) :
    (sch.coerce raw).get? name = some (coerceField spec (raw.get? name)) :=
  get?_coerce (List.mem_of_getElem? h)

theorem get?_coerce_twice (sch : Schema) (raw : Json) (i : Nat)
    (h : sch.fields[i]? = some (name, spec)) (hnullable : spec.nullable = false) :
    (sch.coerce (sch.coerce raw)).get? name = some (coerceField spec (raw.get? name)) := by
  rw [get?_coerce_at sch _ i h, get?_coerce_at sch raw i h]
  rcases coerceField_idem spec (raw.get? name) with hsame | ⟨-, hnull, -⟩
  · rw [hsame]
  · rw [hnullable] at hnull
    cases hnull

theorem nodup_coerce : ((sch.coerce raw).fields.map Prod.fst).Nodup := by
  rw [coerce, Json.fields, List.map_cons, List.map_map]
  exact sch.names

theorem get?_coerce_kind : (sch.coerce raw).get? "kind" = some (.str sch.kind) := rfl

theorem field_coerce (h : (name, spec) ∈ sch.fields) :
    field (sch.coerce raw) name = coerceField spec (raw.get? name) := by
  rw [field, get?_coerce h]
  rfl

/-- When a record can be made, and which. -/
theorem construct_eq_ok : sch.construct size raw = .ok record ↔
    record = sch.coerce raw ∧
      (∀ name spec, (name, spec) ∈ sch.fields →
        validateField size name spec (coerceField spec (raw.get? name)) = .ok ()) ∧
      sch.validate (field (sch.coerce raw)) = .ok () := by
  have hfields : checkAll (sch.fields.map fun (name, spec) =>
      validateField size name spec (field (sch.coerce raw) name)) = .ok () ↔
        ∀ name spec, (name, spec) ∈ sch.fields →
          validateField size name spec (coerceField spec (raw.get? name)) = .ok () := by
    rw [checkAll_eq_ok]
    constructor
    · intro h name spec hmem
      rw [← field_coerce hmem]
      exact h _ (List.mem_map.2 ⟨(name, spec), hmem, rfl⟩)
    · intro h check hcheck
      obtain ⟨⟨name, spec⟩, hmem, rfl⟩ := List.mem_map.1 hcheck
      dsimp only
      rw [field_coerce hmem]
      exact h name spec hmem
  rw [← hfields, construct]
  generalize checkAll _ = checked
  generalize sch.validate _ = validated
  cases checked with
  | error e => exact ⟨fun h => (by cases h), fun h => (by cases h.2.1)⟩
  | ok u =>
    cases validated with
    | error e => exact ⟨fun h => (by cases h), fun h => (by cases h.2.2)⟩
    | ok u => exact ⟨fun h => ⟨(Except.ok.inj h).symm, rfl, rfl⟩, fun h => congrArg Except.ok h.1.symm⟩

theorem coerceField_coerce (h : (name, spec) ∈ sch.fields)
    (hnullable : spec.nullable = false) :
    coerceField spec ((sch.coerce raw).get? name) = coerceField spec (raw.get? name) := by
  obtain ⟨i, hi⟩ := List.getElem?_of_mem h
  have htwice := get?_coerce_twice sch raw i hi hnullable
  rw [get?_coerce_at sch _ i hi] at htwice
  exact Option.some_inj.1 htwice

/-- A record without nullable fields is not changed by being made again. -/
theorem coerce_coerce (hnullable : ∀ name spec, (name, spec) ∈ sch.fields → spec.nullable = false) :
    sch.coerce (sch.coerce raw) = sch.coerce raw := by
  have hfields : (sch.fields.map fun (name, spec) =>
      (name, coerceField spec ((sch.coerce raw).get? name))) =
        sch.fields.map fun (name, spec) => (name, coerceField spec (raw.get? name)) := by
    refine List.map_congr_left fun e he => ?_
    dsimp only
    rw [coerceField_coerce he (hnullable e.1 e.2 he)]
  exact congrArg (fun fields => Json.obj (("kind", .str sch.kind) :: fields)) hfields

/-- Nothing is required of an integer that may be missing. -/
theorem validateField_int (hint : spec.type = .int)
    (hrequired : spec.required = false) (value : Json) :
    validateField size name spec value = .ok () := by
  obtain ⟨type, required, nullable, maxLength, maxJsonBytes⟩ := spec
  subst hint hrequired
  cases value <;> rfl

/-- **A record is made again from what it is sent as.** -/
theorem construct_coerced (h : sch.construct size raw = .ok record)
    (hnullable : ∀ name spec, (name, spec) ∈ sch.fields → spec.nullable = true →
      spec.required = false)
    (hvalidate : sch.validate (field (sch.coerce record)) = .ok ()) :
    sch.construct size record = .ok (sch.coerce record) := by
  obtain ⟨rfl, hfields, -⟩ := construct_eq_ok.1 h
  refine construct_eq_ok.2 ⟨rfl, fun name spec hmem => ?_, hvalidate⟩
  rw [get?_coerce hmem]
  rcases coerceField_idem spec (raw.get? name) with hsame | ⟨hint, hnull, -, hzero⟩
  · rw [hsame]
    exact hfields name spec hmem
  · exact validateField_int hint (hnullable name spec hmem hnull) _

/-- A record without nullable fields is made again as it is. -/
theorem construct_strict (h : sch.construct size raw = .ok record)
    (hstrict : ∀ name spec, (name, spec) ∈ sch.fields → spec.nullable = false) :
    sch.construct size record = .ok record := by
  obtain ⟨rfl, -, hvalidate⟩ := construct_eq_ok.1 h
  have hsame : sch.coerce (sch.coerce raw) = sch.coerce raw := coerce_coerce hstrict
  rw [← hsame] at hvalidate
  have hagain := construct_coerced h (fun name spec hmem hnull => by
    rw [hstrict name spec hmem] at hnull
    cases hnull) hvalidate
  rwa [hsame] at hagain

end Schema

end RezChat.Records
