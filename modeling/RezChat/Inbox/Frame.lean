/-
A mailbox-deposit frame and its canonical identity.

A frame comes off the wire as untyped JSON, and the code under
`src/server/runtime` reads each field through a `typeof` test. A field is
modelled as the value it has when it passes its test, and as `none` otherwise,
which is all any reader of the frame can tell apart.
-/
import Mathlib.Data.List.Basic
import Mathlib.Tactic.FinCases

set_option autoImplicit false

namespace RezChat.Inbox

open List String Nat

/-! ## Strings -/

/-- The characters `String.prototype.trim` removes: white space and line
terminators. -/
def isJsSpace (c : Char) : Bool :=
  c.val.toNat ∈ [0x09, 0x0A, 0x0B, 0x0C, 0x0D, 0x20, 0xA0, 0x1680, 0x2028, 0x2029, 0x202F,
    0x205F, 0x3000, 0xFEFF] || (0x2000 ≤ c.val.toNat && c.val.toNat ≤ 0x200A)

/-- A list without the white space at its two ends. -/
def trimList (l : List Char) : List Char :=
  ((l.dropWhile isJsSpace).reverse.dropWhile isJsSpace).reverse

/-- `String.prototype.trim`. -/
def trim (s : String) : String := ofList (trimList s.toList)

/-- `typeof s === "string" ? s.trim() : ""`. -/
def trimmed (s : Option String) : String := (s.map trim).getD ""

theorem dropWhile_dropWhile {α : Type} (p : α → Bool) (l : List α) :
    (l.dropWhile p).dropWhile p = l.dropWhile p := by
  induction l with
  | nil => rfl
  | cons a l ih =>
    by_cases h : p a
    · rw [dropWhile_cons_of_pos h, ih]
    · rw [dropWhile_cons_of_neg h, dropWhile_cons_of_neg h]

/-- What a `dropWhile` left is left by it again at the other end as well: its
first element, if it has one, already stays. -/
theorem dropWhile_of_suffix {α : Type} (p : α → Bool) {l m : List α}
    (h : l.dropWhile p = l) (hm : ∃ t, l = m ++ t) : m.dropWhile p = m := by
  obtain ⟨t, rfl⟩ := hm
  cases m with
  | nil => rfl
  | cons a m =>
    have ha : ¬ p a = true := by
      intro hp
      rw [cons_append, dropWhile_cons_of_pos hp] at h
      have := congrArg List.length h
      have hle := (dropWhile_sublist p (l := m ++ t)).length_le
      simp only [length_cons] at this
      omega
    rw [dropWhile_cons_of_neg ha]

theorem dropWhile_trimList (l : List Char) :
    (trimList l).dropWhile isJsSpace = trimList l := by
  refine dropWhile_of_suffix isJsSpace (dropWhile_dropWhile isJsSpace l) ?_
  obtain ⟨t, ht⟩ := dropWhile_suffix isJsSpace (l := (l.dropWhile isJsSpace).reverse)
  refine ⟨t.reverse, ?_⟩
  rw [trimList, ← reverse_append, ht, reverse_reverse]

theorem trimList_trimList (l : List Char) : trimList (trimList l) = trimList l := by
  rw [trimList, dropWhile_trimList]
  rw [trimList, reverse_reverse, dropWhile_dropWhile]

/-- Trimming twice is trimming once. -/
@[simp] theorem trim_trim (s : String) : trim (trim s) = trim s := by
  rw [trim, trim, toList_ofList, trimList_trimList]

/-! ## Frames -/

/-- The fields of an inbound deposit frame that the server reads. `seq` is
there when it is an integer; every other field when it is a string. -/
structure Frame where
  mailboxId : Option String := none
  eventId : Option String := none
  seq : Option Int := none
  ciphertextB64 : Option String := none
  senderAccountId : Option String := none
  deriving DecidableEq

/-- `depositIdentity`: the mailbox, and the identity of the deposit within it. -/
structure DepositId where
  mailboxId : String
  dedupId : String
  deriving DecidableEq

/-- The identity of the home event with sequence number `seq`. -/
def seqKey (seq : Nat) : String := "seq:" ++ toString seq

/-- A durable home event is identified by its sequence number; without one the
transient relay event id is used. -/
def depositIdentity (frame : Frame) : DepositId where
  mailboxId := trimmed frame.mailboxId
  dedupId :=
    match frame.seq with
    | some seq => if 0 ≤ seq then seqKey seq.toNat else trimmed frame.eventId
    | none => trimmed frame.eventId

@[simp] theorem trim_trimmed (s : Option String) : trim (trimmed s) = trimmed s := by
  cases s with
  | none => rfl
  | some s => exact trim_trim s

theorem toList_seqKey (seq : Nat) :
    (seqKey seq).toList = ['s', 'e', 'q', ':'] ++ toDigits 10 seq := by
  have hn : (toString seq).toList = toDigits 10 seq := by
    rw [toString_eq_ofList_toDigits, toList_ofList]
  rw [seqKey, toList_append, hn]
  rfl

theorem not_isJsSpace_of_isDigit {c : Char} (h : c.isDigit = true) : isJsSpace c = false := by
  rw [Char.isDigit_iff_toNat] at h
  have h0 : ('0' : Char).toNat = 48 := rfl
  have h9 : ('9' : Char).toNat = 57 := rfl
  have hc : c.val.toNat = c.toNat := rfl
  simp only [isJsSpace, hc, mem_cons, not_mem_nil, or_false, Bool.or_eq_false_iff,
    decide_eq_false_iff_not, Bool.and_eq_false_iff]
  omega

theorem trimList_of_all {l : List Char} (h : ∀ c ∈ l, isJsSpace c = false) :
    trimList l = l := by
  have hd : ∀ m : List Char, (∀ c ∈ m, isJsSpace c = false) → m.dropWhile isJsSpace = m := by
    intro m hm
    cases m with
    | nil => rfl
    | cons a m =>
      rw [dropWhile_cons_of_neg]
      rw [hm a mem_cons_self]
      exact Bool.false_ne_true
  rw [trimList, hd l h, hd l.reverse (fun c hc => h c (mem_reverse.1 hc)),
    reverse_reverse]

@[simp] theorem trim_seqKey (seq : Nat) : trim (seqKey seq) = seqKey seq := by
  rw [trim, trimList_of_all, ofList_toList]
  intro c hc
  rw [toList_seqKey, List.mem_append] at hc
  rcases hc with hc | hc
  · fin_cases hc <;> decide
  · exact not_isJsSpace_of_isDigit
      (isDigit_of_mem_toDigits (by decide) (by decide) hc)

/-- Different numbers are written differently. -/
theorem toString_injective {m n : Nat} (h : toString m = toString n) : m = n := by
  have hl : toDigits 10 m = toDigits 10 n := by
    have := congrArg toList h
    rwa [toString_eq_ofList_toDigits, toString_eq_ofList_toDigits, toList_ofList,
      toList_ofList] at this
  have := congrArg (fun l => ofDigitChars 10 l 0) hl
  rwa [ofDigitChars_ten_toDigits, ofDigitChars_ten_toDigits] at this

@[simp] theorem trim_mailboxId (frame : Frame) :
    trim (depositIdentity frame).mailboxId = (depositIdentity frame).mailboxId :=
  trim_trimmed frame.mailboxId

/-- The identity of a deposit is already trimmed, so the stores, which trim
their keys again, keep it under the very same string. -/
@[simp] theorem trim_dedupId (frame : Frame) :
    trim (depositIdentity frame).dedupId = (depositIdentity frame).dedupId := by
  rw [depositIdentity]
  cases frame.seq with
  | none => exact trim_trimmed frame.eventId
  | some seq =>
    by_cases h : 0 ≤ seq
    · simp only [if_pos h, trim_seqKey]
    · simp only [if_neg h, trim_trimmed]

end RezChat.Inbox
