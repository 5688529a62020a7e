/-
JSON data, and what does not depend on the order of keys.

A value is data as JSON has it; a property that is not defined is left out of an object. The order of
an object's keys is part of its text but not of what it says: `sorted` orders the keys of all objects
in a value, and a canonical text is one that depends on the sorted value and determines it
(`Canonical`). Two objects with the same keys have the same canonical text exactly if their
properties do (`object_sorted_iff`).

`toNumber` is what the language makes of a value that is used as a number.
-/
import Mathlib.Data.List.Sort
import Mathlib.Algebra.Group.Int.Defs
import Mathlib.Algebra.Group.Nat.Defs
import Mathlib.Data.Rat.Defs
import RezChat.Lib.OrdMap

set_option autoImplicit false

namespace RezChat

open List OrdMap Prod Option

inductive Json
  | null
  | bool (b : Bool)
  | num (q : Rat)
  | str (s : String)
  | arr (items : List Json)
  | obj (fields : List (String × Json))

namespace Json

/-- A property of a value. -/
def get? : Json → String → Option Json
  | .obj fields, name => fields.lookup name
  | _, _ => none

/-- The properties that are defined. -/
def definedFields : List (String × Option Json) → List (String × Json)
  | [] => []
  | (name, some v) :: fields => (name, v) :: definedFields fields
  | (_, none) :: fields => definedFields fields

/-- An object literal. What is not defined is left out. -/
def object (fields : List (String × Option Json)) : Json := .obj (definedFields fields)

/-- The properties of an object. -/
def fields : Json → List (String × Json)
  | .obj fields => fields
  | _ => []

/-- `{ ...v, more }`, for an object. -/
def spread (v : Json) (more : List (String × Json)) : Json :=
  .obj (more.foldl (fun fields e => setEntry e.1 e.2 fields) v.fields)

theorem get?_eq_lookup (v : Json) (name : String) : v.get? name = v.fields.lookup name := by
  cases v <;> rfl

/-- What is not written over stays. -/
theorem get?_spread_of_notMem {v : Json} {more : List (String × Json)} {name : String}
    (h : name ∉ more.map fst) : (v.spread more).get? name = v.get? name := by
  have hfold : ∀ fields : List (String × Json),
      (more.foldl (fun fields e => setEntry e.1 e.2 fields) fields).lookup name =
        fields.lookup name := by
    induction more with
    | nil => intro fields; rfl
    | cons e more ih =>
      intro fields
      rw [map_cons, mem_cons, not_or] at h
      rw [foldl_cons, ih h.2, lookup_setEntry, if_neg h.1]
  rw [get?_eq_lookup v]
  exact hfold v.fields

/-! ## The order of keys -/

mutual

/-- The value with the keys of all its objects in order. -/
def sorted : Json → Json
  | .arr items => .arr (sortedItems items)
  | .obj fields => .obj ((sortedFields fields).insertionSort fun a b => a.1 ≤ b.1)
  | .null => .null
  | .bool b => .bool b
  | .num q => .num q
  | .str s => .str s

def sortedItems : List Json → List Json
  | [] => []
  | v :: vs => v.sorted :: sortedItems vs

def sortedFields : List (String × Json) → List (String × Json)
  | [] => []
  | (name, v) :: fields => (name, v.sorted) :: sortedFields fields

end

/-- A canonical text of values. -/
structure Canonical (Text : Type) where
  stringify : Json → Text
  canonical : ∀ v w, stringify v = stringify w ↔ v.sorted = w.sorted

/-- The sorted value is a canonical text of itself. -/
def Canonical.sorting : Canonical Json := ⟨sorted, fun _ _ => .rfl⟩

theorem sortedFields_eq_map (fields : List (String × Json)) :
    sortedFields fields = fields.map fun e => (e.1, e.2.sorted) := by
  induction fields with
  | nil => rfl
  | cons e fields ih => rw [sortedFields, ih, map_cons]

theorem keys_sortedFields (fields : List (String × Json)) :
    (sortedFields fields).map fst = fields.map fst := by
  rw [sortedFields_eq_map, List.map_map]
  rfl

/-- Sorting changes no property. -/
theorem lookup_sorted {fields : List (String × Json)} (hkeys : (fields.map fst).Nodup)
    (name : String) :
    ((sortedFields fields).insertionSort fun a b => a.1 ≤ b.1).lookup name =
      (fields.lookup name).map sorted := by
  have hperm : ((sortedFields fields).insertionSort fun a b => a.1 ≤ b.1).Perm
      (sortedFields fields) := perm_insertionSort _ _
  have hnodup : (((sortedFields fields).insertionSort fun a b => a.1 ≤ b.1).map fst).Nodup := by
    rw [(hperm.map fst).nodup_iff, keys_sortedFields]
    exact hkeys
  refine ext fun v => ?_
  constructor
  · intro h
    have hmem := hperm.subset (mem_of_lookup h)
    rw [sortedFields_eq_map] at hmem
    obtain ⟨⟨name', w⟩, hw, heq⟩ := mem_map.1 hmem
    obtain ⟨rfl, rfl⟩ := mk.inj heq
    rw [lookup_of_mem hkeys hw]
    rfl
  · intro h
    obtain ⟨w, hw, rfl⟩ := map_eq_some_iff.1 h
    refine lookup_of_mem hnodup (hperm.mem_iff.2 ?_)
    rw [sortedFields_eq_map]
    exact mem_map.2 ⟨(name, w), mem_of_lookup hw, rfl⟩

/-- Two objects that are the same up to the order of keys have the same properties, up to that. -/
theorem get?_of_sorted_eq {v : Json} {fields : List (String × Json)}
    (hkeys : (fields.map fst).Nodup) (h : v.sorted = (Json.obj fields).sorted) (name : String) :
    (v.get? name).map sorted = ((Json.obj fields).get? name).map sorted := by
  cases v with
  | obj gs =>
    rw [sorted, sorted] at h
    have hsorts := Json.obj.inj h
    have hperm : (sortedFields gs).Perm (sortedFields fields) := by
      refine (perm_insertionSort (fun a b => a.1 ≤ b.1) _).symm.trans ?_
      rw [hsorts]
      exact perm_insertionSort _ _
    have hgs : (gs.map fst).Nodup := by
      rw [← keys_sortedFields, (hperm.map fst).nodup_iff, keys_sortedFields]
      exact hkeys
    have hlookup := congrArg (lookup name) hsorts
    rw [lookup_sorted hgs, lookup_sorted hkeys] at hlookup
    exact hlookup
  | null => rw [sorted, sorted] at h; cases h
  | bool b => rw [sorted, sorted] at h; cases h
  | num q => rw [sorted, sorted] at h; cases h
  | str s => rw [sorted, sorted] at h; cases h
  | arr items => rw [sorted, sorted] at h; cases h

/-! ## Objects with the same keys -/

theorem mem_definedFields {fields : List (String × Option Json)} {name : String} {v : Json} :
    (name, v) ∈ definedFields fields ↔ (name, some v) ∈ fields := by
  induction fields with
  | nil => exact iff_of_false not_mem_nil not_mem_nil
  | cons e fields ih =>
    obtain ⟨name', value⟩ := e
    cases value with
    | none => simp [definedFields, ih]
    | some w => simp [definedFields, ih]

theorem keys_definedFields_sublist (fields : List (String × Option Json)) :
    ((definedFields fields).map fst).Sublist (fields.map fst) := by
  induction fields with
  | nil => exact Sublist.refl _
  | cons e fields ih =>
    obtain ⟨name, value⟩ := e
    cases value with
    | none => exact ih.cons _
    | some v => exact ih.cons_cons _

/-- A property of an object literal. -/
theorem lookup_definedFields {fields : List (String × Option Json)}
    (hkeys : (fields.map fst).Nodup) {name : String} {value : Option Json}
    (h : (name, value) ∈ fields) : (definedFields fields).lookup name = value := by
  have hnodup := (keys_definedFields_sublist fields).nodup hkeys
  refine ext fun v => ?_
  constructor
  · intro hv
    have hmem := mem_definedFields.1 (mem_of_lookup hv)
    have hsame := lookup_of_mem hkeys h
    rw [lookup_of_mem hkeys hmem] at hsame
    exact (some_inj.1 hsame).symm
  · rintro rfl
    exact lookup_of_mem hnodup (mem_definedFields.2 h)

/-- **Two objects with the same keys** are the same up to the order of keys exactly if their properties
are. -/
theorem object_sorted_iff {fs gs : List (String × Option Json)}
    (hnames : fs.map fst = gs.map fst) (hkeys : (fs.map fst).Nodup) :
    (object fs).sorted = (object gs).sorted ↔
      Forall₂ (fun f g => f.2.map sorted = g.2.map sorted) fs gs := by
  constructor
  · intro h
    rw [object, object, sorted, sorted] at h
    have hfields := Json.obj.inj h
    have hall : ∀ name f g, (name, f) ∈ fs → (name, g) ∈ gs → f.map sorted = g.map sorted := by
      intro name f g hf hg
      have hlookup := congrArg (lookup name) hfields
      rw [lookup_sorted ((keys_definedFields_sublist fs).nodup hkeys),
        lookup_sorted ((keys_definedFields_sublist gs).nodup (hnames ▸ hkeys)),
        lookup_definedFields hkeys hf, lookup_definedFields (hnames ▸ hkeys) hg] at hlookup
      exact hlookup
    clear h hfields hkeys
    induction fs generalizing gs with
    | nil =>
      cases gs with
      | nil => exact .nil
      | cons g gs => cases hnames
    | cons f fs ih =>
      cases gs with
      | nil => cases hnames
      | cons g gs =>
        obtain ⟨hname, hnames⟩ := cons.inj hnames
        refine .cons ?_ (ih hnames fun name f' g' hf' hg' =>
          hall name f' g' (mem_cons_of_mem _ hf') (mem_cons_of_mem _ hg'))
        refine hall f.1 f.2 g.2 mem_cons_self ?_
        rw [hname]
        exact mem_cons_self
  · intro h
    have hfields : sortedFields (definedFields fs) = sortedFields (definedFields gs) := by
      clear hkeys
      induction h with
      | nil => rfl
      | @cons f g fs gs hvalue hrest ih =>
        obtain ⟨name, f⟩ := f
        obtain ⟨name', g⟩ := g
        obtain ⟨hname, hnames⟩ := cons.inj hnames
        have hrest := ih hnames
        cases f with
        | none =>
          cases g with
          | none => exact hrest
          | some w => cases hvalue
        | some v =>
          cases g with
          | none => cases hvalue
          | some w =>
            have hvw : v.sorted = w.sorted := some_inj.1 hvalue
            have hnn : name = name' := hname
            rw [definedFields, definedFields, sortedFields, sortedFields, hrest, hvw, hnn]
    rw [object, object, sorted, sorted, hfields]

/-! ## Numbers

They are exact here: the rounding of a literal to the nearest double is left out. -/

/-- The value of decimal digits. -/
def digitsValue (s : List Char) : Nat := s.foldl (fun n c => 10 * n + (c.toNat - 48)) 0

/-- A sign, and what comes behind it. -/
def signOf : List Char → Bool × List Char
  | '-' :: s => (true, s)
  | '+' :: s => (false, s)
  | s => (false, s)

/-- A power of ten, from the text behind the mantissa. -/
def exponentOf : List Char → Option Int
  | [] => some 0
  | c :: s =>
    let (negative, digits) := signOf s
    if (c = 'e' ∨ c = 'E') ∧ digits ≠ [] ∧ digits.all Char.isDigit then
      some (if negative then -(digitsValue digits : Int) else digitsValue digits)
    else none

/-- A decimal literal. What is too great to be finite is no number. -/
def decimalOf (s : List Char) : Option Rat :=
  let (negative, s) := signOf s
  let whole := s.takeWhile Char.isDigit
  let rest := s.drop whole.length
  let fraction := if rest.head? = some '.' then (rest.drop 1).takeWhile Char.isDigit else []
  let behind := if rest.head? = some '.' then rest.drop (1 + fraction.length) else rest
  if whole = [] ∧ fraction = [] then none
  else
    match exponentOf behind with
    | none => none
    | some exponent =>
      let power := exponent - fraction.length
      let q := mkRat (digitsValue (whole ++ fraction) * 10 ^ power.toNat) (10 ^ (-power).toNat)
      if q < 2 ^ 1024 - 2 ^ 970 then some (if negative then -q else q) else none

/-- A literal of another base, behind its prefix. -/
def radixOf (base : Nat) (s : List Char) : Option Rat :=
  let digit := fun c : Char =>
    if c.isDigit then c.toNat - 48 else if c.toLower.isLower then c.toLower.toNat - 87 else base
  if s ≠ [] ∧ s.all (fun c => digit c < base) then
    some (s.foldl (fun n c => base * n + digit c) 0 : Nat)
  else none

/-- `Number` of a text without white space at its ends, if that is finite. -/
def literalOf : List Char → Option Rat
  | [] => some 0
  | '0' :: 'x' :: s => radixOf 16 s
  | '0' :: 'X' :: s => radixOf 16 s
  | '0' :: 'o' :: s => radixOf 8 s
  | '0' :: 'O' :: s => radixOf 8 s
  | '0' :: 'b' :: s => radixOf 2 s
  | '0' :: 'B' :: s => radixOf 2 s
  | s => decimalOf s

/-- `Math.trunc`. -/
def trunc (q : Rat) : Int := q.num.tdiv q.den

theorem trunc_intCast (n : Int) : trunc n = n := by
  rw [trunc]
  exact Int.tdiv_one n

end Json

end RezChat
