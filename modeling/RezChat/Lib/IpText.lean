/-
Internet addresses and how they are written.

An IPv4 address is written in one way, as four numbers. An IPv6 address has many spellings: groups of
one to four hexadecimal digits of either case, a run of groups that are zero left out, the last two
groups written as an IPv4 address, and a zone behind it. `parseIpv4` and `parseIpv6` say which
address a text denotes, if it denotes one.
-/
import Mathlib.Data.Fin.Basic
import RezChat.Lib.Texts

set_option autoImplicit false

namespace RezChat.IpText

open Texts
open List

/-! ## Numbers -/

def isHex (c : Char) : Bool := c.isDigit || ('a' ≤ c && c ≤ 'f')

/-- The value of a digit, of either base. -/
def digitValue (c : Char) : Nat := if c.isDigit then c.toNat - 48 else c.toNat - 87

/-- The value of digits. -/
def number (base : Nat) (s : List Char) : Nat := s.foldl (fun n c => base * n + digitValue c) 0

/-! ## Addresses -/

structure Ipv4 where
  a : Fin 256
  b : Fin 256
  c : Fin 256
  d : Fin 256
  deriving DecidableEq

/-- Eight groups of sixteen bits. -/
structure Ipv6 where
  groups : List (Fin 65536)
  eight : groups.length = 8
  deriving DecidableEq

/-- The two groups that an IPv4 address is. -/
def Ipv4.groups (v : Ipv4) : List (Fin 65536) :=
  [⟨256 * v.a + v.b, by omega⟩, ⟨256 * v.c + v.d, by omega⟩]

instance neZero_65536 : @NeZero Nat Zero.ofOfNat0 65536 := ⟨Nat.succ_ne_zero 65535⟩

/-- `::ffff:a.b.c.d`. -/
def Ipv4.mapped (v : Ipv4) : Ipv6 := ⟨[0, 0, 0, 0, 0, 0xffff] ++ v.groups, rfl⟩

def Ipv6.unspecified : Ipv6 := ⟨List.replicate 8 0, rfl⟩

def Ipv6.loopback : Ipv6 := ⟨List.replicate 7 0 ++ [1], rfl⟩

/-- The group that an address begins with. -/
def Ipv6.first (v : Ipv6) : Fin 65536 := v.groups.headD 0

/-! ## Texts -/

/-- A number below 256, without zeros before it. -/
def octet (s : List Char) : Option (Fin 256) :=
  if h : s ≠ [] ∧ s.all Char.isDigit ∧ (s.head? = some '0' → s = ['0']) ∧ number 10 s < 256 then
    some ⟨number 10 s, h.2.2.2⟩
  else none

def parseIpv4 (s : List Char) : Option Ipv4 :=
  match s.splitOn '.' with
  | [a, b, c, d] =>
    match octet a, octet b, octet c, octet d with
    | some a, some b, some c, some d => some ⟨a, b, c, d⟩
    | _, _, _, _ => none
  | _ => none

/-- One to four hexadecimal digits. -/
def hextet (s : List Char) : Option (Fin 65536) :=
  if h : s ≠ [] ∧ s.length ≤ 4 ∧ s.all isHex ∧ number 16 s < 65536 then
    some ⟨number 16 s, h.2.2.2⟩
  else none

/-- Groups. Where `last`, the last one may be written as an IPv4 address. -/
def pieces (last : Bool) : List (List Char) → Option (List (Fin 65536))
  | [] => some []
  | [p] =>
    match hextet p with
    | some g => some [g]
    | none => if last then (parseIpv4 p).map Ipv4.groups else none
  | p :: ps =>
    match hextet p, pieces last ps with
    | some g, some gs => some (g :: gs)
    | _, _ => none

/-- Groups with colons between them, or nothing. -/
def side (last : Bool) (s : List Char) : Option (List (Fin 65536)) :=
  if s = [] then some [] else pieces last (s.splitOn ':')

/-- The groups of an address without its zone. A double colon stands for at least one group. -/
def body (s : List Char) : Option (List (Fin 65536)) :=
  match cut [':', ':'] s with
  | none => side true s
  | some (before, after) =>
    match side false before, side true after with
    | some gs, some hs =>
      if gs.length + hs.length ≤ 7 then
        some (gs ++ List.replicate (8 - (gs.length + hs.length)) 0 ++ hs)
      else none
    | _, _ => none

def isZone (c : Char) : Bool :=
  c.isDigit || ('a' ≤ c && c ≤ 'z') || c ∈ ['-', '.', ':']

/-- The address that a text in lower case denotes. -/
def parseLower (s : List Char) : Option Ipv6 :=
  let zone := s.dropWhile (· ≠ '%')
  if zone = [] ∨ (2 ≤ zone.length ∧ zone.tail.all isZone) then
    match body (s.takeWhile (· ≠ '%')) with
    | some gs => if h : gs.length = 8 then some ⟨gs, h⟩ else none
    | none => none
  else none

/-- The case of the letters makes no difference. -/
def parseIpv6 (s : List Char) : Option Ipv6 := parseLower (s.map Char.toLower)

/-! ## Reading a text from its ends -/

variable {s : List Char}

theorem number_octet {n : Fin 256} (h : octet s = some n) :
    s ≠ [] ∧ s.all Char.isDigit = true ∧ number 10 s = n := by
  rw [octet] at h
  split at h
  · next hs =>
    cases h
    exact ⟨hs.1, hs.2.1, rfl⟩
  · cases h

theorem number_hextet {g : Fin 65536} (h : hextet s = some g) :
    s ≠ [] ∧ s.all isHex = true ∧ number 16 s = g := by
  rw [hextet] at h
  split at h
  · next hs =>
    cases h
    exact ⟨hs.1, hs.2.2.1, rfl⟩
  · cases h

/-- An IPv4 address is written as its four numbers. -/
theorem parseIpv4_eq_some {v : Ipv4} (h : parseIpv4 s = some v) :
    ∃ a b c d, s.splitOn '.' = [a, b, c, d] ∧ octet a = some v.a ∧ octet b = some v.b ∧
      octet c = some v.c ∧ octet d = some v.d := by
  unfold parseIpv4 at h
  split at h
  · next a b c d hs =>
    split at h
    · next ha hb hc hd =>
      cases h
      exact ⟨a, b, c, d, hs, ha, hb, hc, hd⟩
    · cases h
  · cases h

/-- The first of several groups is a group, not an address. -/
theorem pieces_cons {last : Bool} {p : List Char} {ps : List (List Char)}
    {gs : List (Fin 65536)} (h : pieces last (p :: ps) = some gs)
    (hmany : last = true → 2 < gs.length) : ∃ g, hextet p = some g ∧ gs.head? = some g := by
  cases ps with
  | nil =>
    rw [pieces] at h
    cases hp : hextet p with
    | some g =>
      rw [hp] at h
      cases h
      exact ⟨g, rfl, rfl⟩
    | none =>
      rw [hp] at h
      dsimp only at h
      split at h
      · next hlast =>
        obtain ⟨v, -, rfl⟩ := Option.map_eq_some_iff.1 h
        exact absurd (hmany hlast) (Nat.lt_irrefl 2)
      · cases h
  | cons q ps =>
    rw [pieces] at h
    · split at h
      · next g gs' hg hgs =>
        cases h
        exact ⟨g, hg, rfl⟩
      · cases h
    · exact cons_ne_nil _ _

/-- **The first group.** What stands before the first colon is the first group, or nothing, where the
address begins with a group that is zero. -/
theorem first_of_body {gs : List (Fin 65536)} (h : body s = some gs) (height : gs.length = 8) :
    (s.takeWhile (· ≠ ':') = [] ∧ gs.head? = some 0) ∨
      ∃ g, hextet (s.takeWhile (· ≠ ':')) = some g ∧ gs.head? = some g := by
  unfold body at h
  cases hcut : cut [':', ':'] s with
  | none =>
    rw [hcut] at h
    obtain ⟨rest, hrest⟩ := splitOn_eq_cons ':' s
    dsimp only [side] at h
    split at h
    · cases h
      cases height
    · rw [hrest] at h
      exact .inr (pieces_cons h fun _ => by omega)
  | some pair =>
    obtain ⟨before, after⟩ := pair
    have hs := eq_append_of_cut hcut
    rw [append_assoc] at hs
    have htake : s.takeWhile (· ≠ ':') = before.takeWhile (· ≠ ':') := by
      rw [hs]
      exact takeWhile_append_cons ':' before (':' :: after)
    rw [hcut] at h
    dsimp only at h
    split at h
    · next gs' hs' hgs hhs =>
      split at h
      · next hle =>
        cases h
        rw [htake]
        by_cases hbefore : before = []
        · -- nothing stands before the double colon
          subst hbefore
          cases hgs
          refine .inl ⟨rfl, ?_⟩
          obtain ⟨n, hn⟩ : ∃ n, 8 - (([] : List (Fin 65536)).length + hs'.length) = n + 1 :=
            ⟨7 - hs'.length, by simp only [length_nil] at hle ⊢; omega⟩
          rw [hn]
          rfl
        · obtain ⟨rest, hrest⟩ := splitOn_eq_cons ':' before
          rw [side, if_neg hbefore, hrest] at hgs
          obtain ⟨g, hg, hhead⟩ := pieces_cons hgs fun hlast => by cases hlast
          refine .inr ⟨g, hg, ?_⟩
          rw [append_assoc, head?_append, hhead]
          rfl
      · cases h
    · cases h

theorem parseLower_eq_some {v : Ipv6} (h : parseLower s = some v) :
    body (s.takeWhile (· ≠ '%')) = some v.groups := by
  unfold parseLower at h
  dsimp only at h
  split at h
  · split at h
    · next gs hgs =>
      split at h
      · cases h
        exact hgs
      · cases h
    · cases h
  · cases h

/-- An address has a colon. -/
theorem colon_of_body {gs : List (Fin 65536)} (h : body s = some gs) (height : gs.length = 8) :
    ':' ∈ s := by
  by_contra hcolon
  unfold body at h
  cases hcut : cut [':', ':'] s with
  | none =>
    rw [hcut] at h
    dsimp only [side] at h
    split at h
    · cases h
      cases height
    · rw [splitOn_eq_singleton hcolon, pieces] at h
      cases hp : hextet s with
      | some g =>
        rw [hp] at h
        cases h
        cases height
      | none =>
        rw [hp] at h
        obtain ⟨v, -, rfl⟩ := Option.map_eq_some_iff.1 h
        cases height
  | some pair =>
    have hs := eq_append_of_cut hcut
    rw [hs] at hcolon
    exact hcolon (mem_append_left _ (mem_append_right _ mem_cons_self))

/-- **The first group of an address**, also where a zone stands behind it. -/
theorem first_of_parseLower {v : Ipv6} (h : parseLower s = some v) :
    (s.takeWhile (· ≠ ':') = [] ∧ v.first = 0) ∨ hextet (s.takeWhile (· ≠ ':')) = some v.first := by
  have hbody := parseLower_eq_some h
  have hhead : ∀ g, v.groups.head? = some g → v.first = g := by
    intro g hg
    rw [Ipv6.first, headD_eq_head?_getD, hg]
    rfl
  obtain ⟨before, after, hsplit⟩ := append_of_mem (colon_of_body hbody v.eight)
  have hs : s = before ++ ':' :: (after ++ s.dropWhile (· ≠ '%')) := by
    conv_lhs => rw [← takeWhile_append_dropWhile (p := (· ≠ '%')) (l := s), hsplit]
    rw [append_assoc]
    rfl
  have htake : s.takeWhile (· ≠ ':') = (s.takeWhile (· ≠ '%')).takeWhile (· ≠ ':') := by
    rw [hsplit, takeWhile_append_cons]
    conv_lhs => rw [hs, takeWhile_append_cons]
  rw [htake]
  exact (first_of_body hbody v.eight).imp (fun ⟨hnil, hg⟩ => ⟨hnil, hhead 0 hg⟩)
    fun ⟨g, hg, hv⟩ => hhead g hv ▸ hg

end RezChat.IpText
