/-
Values on the desktop control channel (`desktop/transport/ControlFrameCodec.js`).

The channel carries JSON, so byte arrays travel as objects with one reserved key. An object that has
that key already is refused. What is encoded is built by assignment to a new object, key after key, and
an assignment to `__proto__` makes no property: it sets the prototype, which is no part of the JSON. So
an object loses that key without notice (`proto_dropped`), and only that is lost
(`roundTrips_iff`).

A value of `Json` is what `JSON.parse` gives for its text. The keys of an object stand in the order in
which `Object.keys` gives them.
-/
import RezChat.Lib.Json

set_option autoImplicit false

namespace RezChat.ControlFrames

/-- What goes over the channel. -/
inductive Value
  | null
  | bool (b : Bool)
  | num (q : Rat)
  | str (s : String)
  | bytes (b : List UInt8)
  | arr (items : List Value)
  | obj (fields : List (String × Value))

/-- The base64 of the platform. -/
structure Base64 where
  bytesToBase64 : List UInt8 → String
  base64ToBytes : String → List UInt8
  bytes_read : ∀ bytes, base64ToBytes (bytesToBase64 bytes) = bytes

/-- `BYTES_TAG`. -/
def bytesTag : String := "$rezU8"

def reservedKey : String := "ControlFrameCodec: object uses reserved key " ++ bytesTag

/-- `out[key] = value`, beside the keys that come after. -/
def assign {α : Type} (key : String) (value : α) (out : List (String × α)) : List (String × α) :=
  if key = "__proto__" then out else (key, value) :: out

variable (c : Base64)

mutual

/-- `encodeControlValue`. -/
def encodeControlValue : Value → Except String Json
  | .bytes b => .ok (.obj [(bytesTag, .str (c.bytesToBase64 b))])
  | .arr items => (encodeItems items).map .arr
  | .obj fields =>
    if fields.any (·.1 = bytesTag) then .error reservedKey else (encodeFields fields).map .obj
  | .null => .ok .null
  | .bool b => .ok (.bool b)
  | .num q => .ok (.num q)
  | .str s => .ok (.str s)

def encodeItems : List Value → Except String (List Json)
  | [] => .ok []
  | v :: vs => do
    let item ← encodeControlValue v
    let items ← encodeItems vs
    return item :: items

def encodeFields : List (String × Value) → Except String (List (String × Json))
  | [] => .ok []
  | (key, v) :: fields => do
    let value ← encodeControlValue v
    let out ← encodeFields fields
    return assign key value out

end

/-- The base64 of an object that stands for a byte array. -/
def tagged : List (String × Json) → Option String
  | [(key, .str s)] => if key = bytesTag then some s else none
  | _ => none

mutual

/-- `decodeControlValue`. -/
def decodeControlValue : Json → Value
  | .arr items => .arr (decodeItems items)
  | .obj fields =>
    match tagged fields with
    | some s => .bytes (c.base64ToBytes s)
    | none => .obj (decodeFields fields)
  | .null => .null
  | .bool b => .bool b
  | .num q => .num q
  | .str s => .str s

def decodeItems : List Json → List Value
  | [] => []
  | v :: vs => decodeControlValue v :: decodeItems vs

def decodeFields : List (String × Json) → List (String × Value)
  | [] => []
  | (key, v) :: fields => assign key (decodeControlValue v) (decodeFields fields)

end

/-! ## Keys -/

namespace Value

mutual

/-- Some object in the value has the key. -/
def hasKey (key : String) : Value → Bool
  | .arr items => itemsHaveKey key items
  | .obj fields => fields.any (·.1 = key) || fieldsHaveKey key fields
  | _ => false

def itemsHaveKey (key : String) : List Value → Bool
  | [] => false
  | v :: vs => v.hasKey key || itemsHaveKey key vs

def fieldsHaveKey (key : String) : List (String × Value) → Bool
  | [] => false
  | (_, v) :: fields => v.hasKey key || fieldsHaveKey key fields

end

mutual

/-- The value without the keys that are the prototype's. -/
def strip : Value → Value
  | .arr items => .arr (stripItems items)
  | .obj fields => .obj (stripFields fields)
  | .null => .null
  | .bool b => .bool b
  | .num q => .num q
  | .str s => .str s
  | .bytes b => .bytes b

def stripItems : List Value → List Value
  | [] => []
  | v :: vs => v.strip :: stripItems vs

def stripFields : List (String × Value) → List (String × Value)
  | [] => []
  | (key, v) :: fields => assign key v.strip (stripFields fields)

end

end Value

open Value List

theorem assign_eq {α : Type} {key : String} (h : key ≠ "__proto__") (value : α)
    (out : List (String × α)) : assign key value out = (key, value) :: out := if_neg h

theorem length_assign_le {α : Type} (key : String) (value : α) (out : List (String × α)) :
    (assign key value out).length ≤ out.length + 1 := by
  unfold assign
  split <;> simp

theorem length_stripFields_le (fields : List (String × Value)) :
    (stripFields fields).length ≤ fields.length := by
  induction fields with
  | nil => exact Nat.le_refl 0
  | cons e fields ih =>
    rw [stripFields, length_cons]
    have hassign := length_assign_le e.1 e.2.strip (stripFields fields)
    omega

mutual

/-- Stripping leaves a value as it is exactly if there is nothing to strip. -/
theorem strip_eq_iff : ∀ v : Value, v.strip = v ↔ v.hasKey "__proto__" = false
  | .arr items => by
    rw [strip, Value.arr.injEq, hasKey]
    exact stripItems_eq_iff items
  | .obj fields => by
    rw [strip, Value.obj.injEq, hasKey, Bool.or_eq_false_iff]
    exact stripFields_eq_iff fields
  | .null => iff_of_true rfl rfl
  | .bool _ => iff_of_true rfl rfl
  | .num _ => iff_of_true rfl rfl
  | .str _ => iff_of_true rfl rfl
  | .bytes _ => iff_of_true rfl rfl

theorem stripItems_eq_iff : ∀ vs : List Value,
    stripItems vs = vs ↔ itemsHaveKey "__proto__" vs = false
  | [] => iff_of_true rfl rfl
  | v :: vs => by
    rw [stripItems, cons.injEq, itemsHaveKey, Bool.or_eq_false_iff, strip_eq_iff v,
      stripItems_eq_iff vs]

theorem stripFields_eq_iff : ∀ fields : List (String × Value), stripFields fields = fields ↔
    fields.any (·.1 = "__proto__") = false ∧ fieldsHaveKey "__proto__" fields = false
  | [] => iff_of_true rfl ⟨rfl, rfl⟩
  | (key, v) :: fields => by
    rw [stripFields, any_cons, Bool.or_eq_false_iff, fieldsHaveKey, Bool.or_eq_false_iff]
    by_cases hkey : key = "__proto__"
    · rw [assign, if_pos hkey]
      -- the key is lost, and what is left is too short
      have hlength := length_stripFields_le fields
      constructor
      · intro hsame
        rw [hsame, length_cons] at hlength
        omega
      · rintro ⟨⟨hnot, -⟩, -⟩
        exact absurd hkey (of_decide_eq_false hnot)
    · rw [assign_eq hkey, cons.injEq, Prod.mk.injEq, strip_eq_iff v, stripFields_eq_iff fields]
      have hnot : decide (key = "__proto__") = false := decide_eq_false hkey
      simp only [hnot, true_and]
      tauto

end

/-! ## There and back -/

/-- Nothing without the reserved key stands for a byte array. -/
theorem tagged_eq_none {fields : List (String × Json)} (h : ∀ e ∈ fields, e.1 ≠ bytesTag) :
    tagged fields = none := by
  unfold tagged
  split
  · exact if_neg (h _ mem_cons_self)
  · rfl

theorem keys_assign {key : String} {value : Json} {out : List (String × Json)}
    {fields : List (String × Value)} {v : Value}
    (h : ∀ e ∈ out, e.1 ∈ fields.map Prod.fst) :
    ∀ e ∈ assign key value out, e.1 ∈ ((key, v) :: fields).map Prod.fst := by
  intro e he
  unfold assign at he
  split at he
  · exact mem_cons_of_mem _ (h e he)
  · rcases mem_cons.1 he with rfl | hout
    · exact mem_cons_self
    · exact mem_cons_of_mem _ (h e hout)

theorem decodeFields_assign {key : String} {value : Json} {out : List (String × Json)} :
    decodeFields c (assign key value out) =
      assign key (decodeControlValue c value) (decodeFields c out) := by
  by_cases hkey : key = "__proto__"
  · rw [assign, if_pos hkey, assign, if_pos hkey]
  · rw [assign_eq hkey, decodeFields]

mutual

/-- What becomes of a value: it is refused, or comes back without the keys that are the
prototype's. -/
theorem encode_cases : ∀ v : Value,
    (v.hasKey bytesTag = true ∧ encodeControlValue c v = .error reservedKey) ∨
      (v.hasKey bytesTag = false ∧
        ∃ e, encodeControlValue c v = .ok e ∧ decodeControlValue c e = v.strip)
  | .arr items => by
    rw [hasKey, encodeControlValue]
    rcases encodeItems_cases items with ⟨hkey, herror⟩ | ⟨hkey, es, hok, hback⟩
    · rw [herror]
      exact .inl ⟨hkey, rfl⟩
    · rw [hok]
      refine .inr ⟨hkey, _, rfl, ?_⟩
      rw [decodeControlValue, strip, hback]
  | .obj fields => by
    rw [hasKey, encodeControlValue]
    cases hown : fields.any (·.1 = bytesTag) with
    | true => exact .inl ⟨rfl, rfl⟩
    | false =>
      rw [Bool.false_or, if_neg Bool.false_ne_true]
      rcases encodeFields_cases fields with ⟨hkey, herror⟩ | ⟨hkey, out, hok, hkeys, hback⟩
      · rw [herror]
        exact .inl ⟨hkey, rfl⟩
      · rw [hok]
        refine .inr ⟨hkey, _, rfl, ?_⟩
        have hfree : ∀ e ∈ out, e.1 ≠ bytesTag := by
          intro e he htag
          obtain ⟨e', he', hsame⟩ := mem_map.1 (hkeys e he)
          exact absurd (decide_eq_true (hsame.trans htag)) (any_eq_false.1 hown e' he')
        rw [decodeControlValue, tagged_eq_none hfree, strip, ← hback]
  | .bytes b => by
    refine .inr ⟨rfl, _, rfl, ?_⟩
    rw [decodeControlValue, tagged, if_pos rfl, strip]
    exact congrArg Value.bytes (c.bytes_read b)
  | .null => .inr ⟨rfl, _, rfl, rfl⟩
  | .bool _ => .inr ⟨rfl, _, rfl, rfl⟩
  | .num _ => .inr ⟨rfl, _, rfl, rfl⟩
  | .str _ => .inr ⟨rfl, _, rfl, rfl⟩

theorem encodeItems_cases : ∀ vs : List Value,
    (itemsHaveKey bytesTag vs = true ∧ encodeItems c vs = .error reservedKey) ∨
      (itemsHaveKey bytesTag vs = false ∧
        ∃ es, encodeItems c vs = .ok es ∧ decodeItems c es = stripItems vs)
  | [] => .inr ⟨rfl, _, rfl, rfl⟩
  | v :: vs => by
    rw [itemsHaveKey, encodeItems]
    rcases encode_cases v with ⟨hkey, herror⟩ | ⟨hkey, e, hok, hback⟩
    · rw [hkey, herror]
      exact .inl ⟨rfl, rfl⟩
    · rw [hkey, hok, Bool.false_or]
      rcases encodeItems_cases vs with ⟨hkeys, herror⟩ | ⟨hkeys, es, hoks, hbacks⟩
      · rw [herror]
        exact .inl ⟨hkeys, rfl⟩
      · rw [hoks]
        refine .inr ⟨hkeys, _, rfl, ?_⟩
        rw [decodeItems, stripItems, hback, hbacks]

theorem encodeFields_cases : ∀ fields : List (String × Value),
    (fieldsHaveKey bytesTag fields = true ∧ encodeFields c fields = .error reservedKey) ∨
      (fieldsHaveKey bytesTag fields = false ∧ ∃ out, encodeFields c fields = .ok out ∧
        (∀ e ∈ out, e.1 ∈ fields.map Prod.fst) ∧ decodeFields c out = stripFields fields)
  | [] => .inr ⟨rfl, [], rfl, fun _ h => (nomatch h), rfl⟩
  | (key, v) :: fields => by
    rw [fieldsHaveKey, encodeFields]
    rcases encode_cases v with ⟨hkey, herror⟩ | ⟨hkey, e, hok, hback⟩
    · rw [hkey, herror]
      exact .inl ⟨rfl, rfl⟩
    · rw [hkey, hok, Bool.false_or]
      rcases encodeFields_cases fields with ⟨hkeys, herror⟩ | ⟨hkeys, out, hoks, hnames, hbacks⟩
      · rw [herror]
        exact .inl ⟨hkeys, rfl⟩
      · rw [hoks]
        refine .inr ⟨hkeys, _, rfl, keys_assign hnames, ?_⟩
        rw [decodeFields_assign, stripFields, hback, hbacks]

end

/-- The value is refused exactly if an object in it has the reserved key, and else it comes back as it
was. -/
def RoundTrips (v : Value) : Prop :=
  ((∃ message, encodeControlValue c v = .error message) ↔ v.hasKey bytesTag = true) ∧
    ∀ e, encodeControlValue c v = .ok e → decodeControlValue c e = v

/-- **There and back.** Exactly the values that have the reserved key, or do not have `__proto__` in
any object. -/
theorem roundTrips_iff (v : Value) : RoundTrips c v ↔
    (v.hasKey "__proto__" = true → v.hasKey bytesTag = true) := by
  rcases encode_cases c v with ⟨hkey, herror⟩ | ⟨hkey, e, hok, hback⟩
  · refine iff_of_true ⟨iff_of_true ⟨_, herror⟩ hkey, fun e he => ?_⟩ fun _ => hkey
    rw [herror] at he
    cases he
  · have hrefused : ¬ ∃ message, encodeControlValue c v = .error message := by
      rintro ⟨message, herror⟩
      rw [hok] at herror
      cases herror
    rw [RoundTrips, hkey, iff_false_right Bool.false_ne_true, and_iff_right hrefused]
    constructor
    · intro h hproto
      have hsame : v.strip = v := hback.symm.trans (h e hok)
      rw [(strip_eq_iff v).1 hsame] at hproto
      exact hproto
    · intro h e' he'
      obtain rfl : e = e' := Except.ok.inj (hok.symm.trans he')
      refine hback.trans ((strip_eq_iff v).2 (Bool.eq_false_iff.2 fun hproto => ?_))
      exact absurd (h hproto) Bool.false_ne_true

/-- Bytes as the characters with their codes. -/
def Base64.latin1 : Base64 where
  bytesToBase64 bytes := String.ofList (bytes.map fun b => Char.ofNat b.toNat)
  base64ToBytes s := s.toList.map fun c => UInt8.ofNat c.toNat
  bytes_read bytes := by
    rw [String.toList_ofList, map_map]
    refine (map_congr_left fun b _ => ?_).trans (map_id bytes)
    have hvalid : b.toNat.isValidChar := .inl (b.toNat_lt.trans (by decide))
    have hchar : (Char.ofNat b.toNat).toNat = b.toNat := congrArg Char.toNat (dif_pos hvalid)
    rw [Function.comp_apply, hchar, UInt8.ofNat_toNat, id]

/-- **An object with the key `__proto__`.** It comes back without. -/
theorem proto_dropped : ¬ ∀ c v, RoundTrips c v := by
  intro h
  have hback := (h Base64.latin1 (.obj [("__proto__", .num 1)])).2 (.obj []) rfl
  cases hback

end RezChat.ControlFrames
