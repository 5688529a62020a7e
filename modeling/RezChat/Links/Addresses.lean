/-
Which addresses a link preview may not be fetched from (`server/services/ServerLinksService.js`).

The check of an IPv4 address works on its numbers. The check of an IPv6 address works on its text: two
texts are compared, one pattern is matched, and otherwise only the first group is looked at. The first
group of the loopback address and of a mapped IPv4 address is zero, so they are recognised in one
spelling and let through in every other (`isPrivateIp_iff`).
-/
import Mathlib.Algebra.Group.Nat.Defs
import Mathlib.Data.List.TakeWhile
import RezChat.Lib.IpText

set_option autoImplicit false

namespace RezChat.Links

open IpText Texts
open List Option

/-! ## The checks -/

/-- `net.isIP`. -/
def isIP (addr : List Char) : Nat :=
  if (parseIpv4 addr).isSome then 4
  else if (parseIpv6 addr).isSome then 6
  else 0

/-- `Number` of a text of digits. -/
def numberOf (s : List Char) : Option Nat :=
  if s.all Char.isDigit then some (number 10 s) else none

/-- `isPrivateIpv4`. -/
def isPrivateIpv4 (addr : List Char) : Bool :=
  match addr.splitOn '.' with
  | [p0, p1, _, _] =>
    match numberOf p0, numberOf p1 with
    | some o0, some o1 =>
      if o0 = 0 then true
      else if o0 = 10 then true
      else if o0 = 127 then true
      else if o0 = 169 ∧ o1 = 254 then true
      else if o0 = 172 ∧ o1 ≥ 16 ∧ o1 ≤ 31 then true
      else if o0 = 192 ∧ o1 = 168 then true
      else if o0 = 100 ∧ o1 ≥ 64 ∧ o1 ≤ 127 then true
      else if o0 ≥ 224 then true
      else false
    | _, _ => true
  | _ => true

/-- Four runs of digits with points between them. -/
def isDotted (s : List Char) : Bool :=
  match s.splitOn '.' with
  | [a, b, c, d] => [a, b, c, d].all fun p => p ≠ [] ∧ p.all Char.isDigit
  | _ => false

/-- What the pattern for mapped addresses, `::ffff:` and four numbers, finds. -/
def v4Mapped (lower : List Char) : Option (List Char) :=
  if "::ffff:".toList <+: lower ∧ isDotted (lower.drop 7) then some (lower.drop 7) else none

/-- `Number.parseInt` of a text of hexadecimal digits. -/
def parseHex (s : List Char) : Option Nat :=
  match s.takeWhile isHex with
  | [] => none
  | digits => some (number 16 digits)

/-- `isPrivateIpv6`. -/
def isPrivateIpv6 (addr : List Char) : Bool :=
  let lower := addr.map Char.toLower
  if lower = "::".toList ∨ lower = "::1".toList then true
  else
    match v4Mapped lower with
    | some v4 => isPrivateIpv4 v4
    | none =>
      let head := lower.takeWhile (· ≠ ':')
      if head.length = 0 then false
      else
        match parseHex head with
        | none => true
        | some headNum =>
          if headNum &&& 0xfe00 = 0xfc00 then true
          else if headNum &&& 0xffc0 = 0xfe80 then true
          else if headNum &&& 0xff00 = 0xff00 then true
          else false

/-- `isPrivateIp`. -/
def isPrivateIp (addr : List Char) : Bool :=
  if addr.length = 0 then true
  else if isIP addr = 4 then isPrivateIpv4 addr
  else if isIP addr = 6 then isPrivateIpv6 addr
  else true

/-! ## The addresses that are meant -/

/-- The IPv4 addresses that are not those of a public host. -/
def PrivateIpv4 (v : Ipv4) : Prop :=
  v.a = 0 ∨ v.a = 10 ∨ v.a = 127 ∨ (v.a = 169 ∧ v.b = 254) ∨ (v.a = 172 ∧ 16 ≤ v.b ∧ v.b ≤ 31) ∨
    (v.a = 192 ∧ v.b = 168) ∨ (v.a = 100 ∧ 64 ≤ v.b ∧ v.b ≤ 127) ∨ 224 ≤ v.a

/-- The unspecified and the loopback address, and the IPv4 addresses above in the form of IPv6. Their
first group is zero. -/
def Hidden (v : Ipv6) : Prop :=
  v = .unspecified ∨ v = .loopback ∨ ∃ w : Ipv4, v = w.mapped ∧ PrivateIpv4 w

/-- The IPv6 addresses that are not those of a public host: besides, those that are unique local, link
local or multicast. -/
def PrivateIpv6 (v : Ipv6) : Prop :=
  Hidden v ∨ (0xfc00 ≤ v.first ∧ v.first ≤ 0xfdff) ∨ (0xfe80 ≤ v.first ∧ v.first ≤ 0xfebf) ∨
    0xff00 ≤ v.first

inductive Address
  | v4 (v : Ipv4)
  | v6 (v : Ipv6)
  deriving DecidableEq

def Address.Private : Address → Prop
  | .v4 v => PrivateIpv4 v
  | .v6 v => PrivateIpv6 v

/-- The address that a text denotes, in any of its forms. -/
def denoted (addr : List Char) : Option Address :=
  match parseIpv4 addr with
  | some v => some (.v4 v)
  | none => (parseIpv6 addr).map .v6

/-- The one spelling in which a hidden address is recognised: `::`, `::1`, and `::ffff:` with a dotted
IPv4 address behind it. -/
def Plain (addr : List Char) : Prop :=
  addr.map Char.toLower = "::".toList ∨ addr.map Char.toLower = "::1".toList ∨
    (v4Mapped (addr.map Char.toLower)).isSome = true

/-- A hidden address in another spelling. -/
def Misspelled (addr : List Char) : Prop :=
  ∃ v, denoted addr = some (.v6 v) ∧ Hidden v ∧ ¬ Plain addr

/-! ## Numbers and masks -/

theorem numberOf_octet {s : List Char} {n : Fin 256} (h : octet s = some n) :
    numberOf s = some n.val := by
  obtain ⟨-, hdigits, hvalue⟩ := number_octet h
  rw [numberOf, if_pos hdigits, hvalue]

theorem parseHex_hextet {s : List Char} {g : Fin 65536} (h : hextet s = some g) :
    s ≠ [] ∧ parseHex s = some g.val := by
  obtain ⟨hne, hhex, hvalue⟩ := number_hextet h
  have hall : s.takeWhile isHex = s := takeWhile_eq_self_iff.2 (all_eq_true.1 hhex)
  refine ⟨hne, ?_⟩
  rw [parseHex, hall]
  cases s with
  | nil => exact absurd rfl hne
  | cons c s => exact congrArg some hvalue

/-- A mask of `j` bits above `k` others. -/
theorem and_mask (n j k : Nat) : n &&& (2 ^ k * (2 ^ j - 1)) = 2 ^ k * (n / 2 ^ k % 2 ^ j) := by
  refine Nat.eq_of_testBit_eq fun i => ?_
  rw [Nat.testBit_and, Nat.testBit_two_pow_mul, Nat.testBit_two_pow_mul,
    Nat.testBit_two_pow_sub_one, Nat.testBit_mod_two_pow, Nat.testBit_div_two_pow]
  by_cases hik : k ≤ i
  · simp [hik, Bool.and_comm]
  · simp [hik]

theorem masks {n : Nat} (h : n < 65536) :
    (n &&& 0xfe00 = 0xfc00 ↔ 0xfc00 ≤ n ∧ n ≤ 0xfdff) ∧
      (n &&& 0xffc0 = 0xfe80 ↔ 0xfe80 ≤ n ∧ n ≤ 0xfebf) ∧
        (n &&& 0xff00 = 0xff00 ↔ 0xff00 ≤ n) := by
  have h1 : n &&& 0xfe00 = 512 * (n / 512 % 128) := and_mask n 7 9
  have h2 : n &&& 0xffc0 = 64 * (n / 64 % 1024) := and_mask n 10 6
  have h3 : n &&& 0xff00 = 256 * (n / 256 % 256) := and_mask n 8 8
  rw [h1, h2, h3]
  omega

/-! ## What the checks say -/

theorem isPrivateIpv4_iff {s : List Char} {v : Ipv4} (h : parseIpv4 s = some v) :
    isPrivateIpv4 s = true ↔ PrivateIpv4 v := by
  obtain ⟨a, b, c, d, hs, ha, hb, -, -⟩ := parseIpv4_eq_some h
  rw [isPrivateIpv4, hs]
  dsimp only
  rw [numberOf_octet ha, numberOf_octet hb]
  dsimp only
  unfold PrivateIpv4
  simp only [Fin.ext_iff, Fin.le_def]
  split_ifs <;> simp <;> omega

theorem mem_of_isDotted {m : List Char} (h : isDotted m = true) :
    '.' ∈ m ∧ ∀ c ∈ m, c.isDigit = true ∨ c = '.' := by
  unfold isDotted at h
  split at h
  · next a b c d hs =>
    have hm : ['.'].intercalate [a, b, c, d] = m := by
      rw [← hs]
      exact intercalate_splitOn '.'
    have hdigits : ∀ p ∈ [a, b, c, d], ∀ x ∈ p, x.isDigit = true := fun p hp x hx => by
      have hall := of_decide_eq_true (all_eq_true.1 h p hp)
      exact all_eq_true.1 hall.2 x hx
    have heq : m = a ++ '.' :: (b ++ '.' :: (c ++ '.' :: d)) := by
      rw [← hm]
      simp [intercalate]
    rw [heq]
    refine ⟨mem_append_right _ mem_cons_self, fun x hx => ?_⟩
    simp only [mem_append, mem_cons] at hx
    rcases hx with hx | rfl | hx | rfl | hx | rfl | hx
    · exact .inl (hdigits a (by simp) x hx)
    · exact .inr rfl
    · exact .inl (hdigits b (by simp) x hx)
    · exact .inr rfl
    · exact .inl (hdigits c (by simp) x hx)
    · exact .inr rfl
    · exact .inl (hdigits d (by simp) x hx)
  · cases h

/-- The pattern for mapped addresses finds the IPv4 address in one. -/
theorem eq_mapped_of_v4Mapped {s m : List Char} {v : Ipv6} (hm : v4Mapped s = some m)
    (h : parseLower s = some v) : ∃ w, parseIpv4 m = some w ∧ v = w.mapped := by
  unfold v4Mapped at hm
  split at hm
  · next hs =>
    obtain ⟨⟨rest, hrest⟩, hdotted⟩ := hs
    subst hrest
    have hdrop : ("::ffff:".toList ++ rest).drop 7 = rest := drop_left' rfl
    rw [hdrop] at hm hdotted
    rw [some_inj] at hm
    subst hm
    obtain ⟨hpoint, hchars⟩ := mem_of_isDotted hdotted
    have hnot : ∀ c : Char, c.isDigit = false → c ≠ '.' → c ∉ rest := fun c hdigit hc hmem => by
      rcases hchars c hmem with h | h
      · rw [hdigit] at h
        cases h
      · exact hc h
    have hbody := parseLower_eq_some h
    have hzone : '%' ∉ "::ffff:".toList ++ rest := by
      rw [mem_append, not_or]
      exact ⟨by decide, hnot '%' (by decide) (by decide)⟩
    have hcut : cut [':', ':'] ("::ffff:".toList ++ rest) = some ([], "ffff:".toList ++ rest) :=
      cut_of_isPrefix ⟨"ffff:".toList ++ rest, rfl⟩
    have hsplit : ("ffff:".toList ++ rest).splitOn ':' = ["ffff".toList, rest] := by
      have hffff : "ffff:".toList ++ rest = "ffff".toList ++ ':' :: rest := rfl
      rw [hffff, splitOn_append_cons_self_of_not_mem (by decide),
        splitOn_eq_singleton (hnot ':' (by decide) (by decide))]
    have hhextet : hextet rest = none := by
      cases hg : hextet rest with
      | none => rfl
      | some g =>
        have hhex := all_eq_true.1 (number_hextet hg).2.1 '.' hpoint
        exact absurd hhex (by decide)
    rw [takeWhile_of_notMem hzone, body, hcut] at hbody
    dsimp only [side] at hbody
    rw [if_pos rfl, if_neg (by simp), hsplit] at hbody
    have hffff : hextet "ffff".toList = some 0xffff := by decide
    cases hw : parseIpv4 rest with
    | none =>
      rw [pieces, hffff, pieces, hhextet, hw] at hbody
      · cases hbody
      · exact cons_ne_nil _ _
    | some w =>
      rw [pieces, hffff, pieces, hhextet, hw] at hbody
      · refine ⟨w, rfl, ?_⟩
        obtain ⟨groups, eight⟩ := v
        have hgroups := some_inj.1 hbody
        dsimp only at hgroups
        subst hgroups
        rfl
      · exact cons_ne_nil _ _
  · cases hm

theorem first_of_hidden {v : Ipv6} (h : Hidden v) : v.first = 0 := by
  rcases h with rfl | rfl | ⟨w, rfl, -⟩
  · rfl
  · rfl
  · rfl

theorem mapped_inj {v w : Ipv4} (h : v.mapped = w.mapped) : v = w := by
  obtain ⟨a, b, c, d⟩ := v
  obtain ⟨a', b', c', d'⟩ := w
  have hgroups := congrArg Ipv6.groups h
  simp only [Ipv4.mapped, Ipv4.groups, append_cancel_left_eq, cons.injEq, Fin.mk.injEq,
    and_true] at hgroups
  have ha : a = a' := by omega
  have hb : b = b' := by omega
  have hc : c = c' := by omega
  have hd : d = d' := by omega
  rw [ha, hb, hc, hd]

theorem hidden_mapped_iff {w : Ipv4} : Hidden w.mapped ↔ PrivateIpv4 w := by
  constructor
  · rintro (h | h | ⟨w', h, hprivate⟩)
    · have hgroup : some (0xffff : Fin 65536) = some 0 := congrArg (fun v => v.groups[5]?) h
      exact absurd hgroup (by decide)
    · have hgroup : some (0xffff : Fin 65536) = some 0 := congrArg (fun v => v.groups[5]?) h
      exact absurd hgroup (by decide)
    · rwa [mapped_inj h]
  · exact fun h => .inr (.inr ⟨w, rfl, h⟩)

/-- The ranges of first groups are not those of a hidden address. -/
theorem privateIpv6_iff_of_first {v : Ipv6} (h : v.first = 0) : PrivateIpv6 v ↔ Hidden v := by
  unfold PrivateIpv6
  rw [h]
  refine or_iff_left ?_
  decide

/-- What is left of the check where no spelling is recognised. -/
theorem isPrivateIpv6_iff_of_not_plain {s : List Char} {v : Ipv6} (h : parseIpv6 s = some v)
    (hplain : ¬ Plain s) : isPrivateIpv6 s = true ↔
      (0xfc00 ≤ v.first ∧ v.first ≤ 0xfdff) ∨ (0xfe80 ≤ v.first ∧ v.first ≤ 0xfebf) ∨
        0xff00 ≤ v.first := by
  simp only [Plain, not_or] at hplain
  obtain ⟨hzero, hone, hmapped⟩ := hplain
  rw [isPrivateIpv6, if_neg (not_or.2 ⟨hzero, hone⟩), not_isSome_iff_eq_none.1 hmapped]
  dsimp only
  rcases first_of_parseLower h with ⟨hnil, hfirst⟩ | hfirst
  · rw [hnil, hfirst]
    decide
  · obtain ⟨hne, hhex⟩ := parseHex_hextet hfirst
    rw [if_neg (fun hlen => hne (length_eq_zero_iff.1 hlen)), hhex]
    dsimp only
    obtain ⟨h1, h2, h3⟩ := masks v.first.isLt
    simp only [h1, h2, h3, Fin.le_def]
    split_ifs <;> simp <;> omega

/-- **The check of an IPv6 address** is right exactly if the address is not a hidden one, or is in the
spelling that is recognised. -/
theorem isPrivateIpv6_iff {s : List Char} {v : Ipv6} (h : parseIpv6 s = some v) :
    (isPrivateIpv6 s = true ↔ PrivateIpv6 v) ↔ ¬ (Hidden v ∧ ¬ Plain s) := by
  by_cases hplain : Plain s
  · refine iff_of_true ?_ fun hboth => hboth.2 hplain
    rw [parseIpv6] at h
    rcases hplain with hzero | hone | hmapped
    · have hdenoted : parseLower "::".toList = some .unspecified := by decide
      rw [hzero, hdenoted, some_inj] at h
      rw [isPrivateIpv6, if_pos (.inl hzero), ← h]
      exact iff_of_true rfl (.inl (.inl rfl))
    · have hdenoted : parseLower "::1".toList = some .loopback := by decide
      rw [hone, hdenoted, some_inj] at h
      rw [isPrivateIpv6, if_pos (.inr hone), ← h]
      exact iff_of_true rfl (.inl (.inr (.inl rfl)))
    · obtain ⟨m, hm⟩ := isSome_iff_exists.1 hmapped
      obtain ⟨w, hw, rfl⟩ := eq_mapped_of_v4Mapped hm h
      have hzero : s.map Char.toLower ≠ "::".toList := by
        intro heq
        have hnone : v4Mapped "::".toList = none := by decide
        rw [heq, hnone] at hm
        cases hm
      have hone : s.map Char.toLower ≠ "::1".toList := by
        intro heq
        have hnone : v4Mapped "::1".toList = none := by decide
        rw [heq, hnone] at hm
        cases hm
      rw [isPrivateIpv6, if_neg (not_or.2 ⟨hzero, hone⟩), hm]
      exact (isPrivateIpv4_iff hw).trans (hidden_mapped_iff.symm.trans
        (privateIpv6_iff_of_first rfl).symm)
  · rw [isPrivateIpv6_iff_of_not_plain h hplain]
    by_cases hhidden : Hidden v
    · rw [privateIpv6_iff_of_first (first_of_hidden hhidden), first_of_hidden hhidden]
      simp [hhidden, hplain]
    · unfold PrivateIpv6
      simp [hhidden]

/-- **When the check is right** about a text that denotes an address: exactly if it is not a
misspelling of a hidden address. -/
theorem isPrivateIp_iff {addr : List Char} {a : Address} (h : denoted addr = some a) :
    (isPrivateIp addr = true ↔ a.Private) ↔ ¬ Misspelled addr := by
  have hlength : addr.length ≠ 0 := by
    intro hnil
    have hnone : denoted [] = none := by decide
    rw [length_eq_zero_iff.1 hnil, hnone] at h
    cases h
  rw [isPrivateIp, if_neg hlength, Misspelled, h]
  rw [denoted] at h
  cases hv4 : parseIpv4 addr with
  | some v =>
    rw [hv4] at h
    cases h
    have hisIP : isIP addr = 4 := by
      rw [isIP, hv4]
      rfl
    rw [hisIP, if_pos rfl]
    refine iff_of_true (isPrivateIpv4_iff hv4) ?_
    rintro ⟨v', heq, -⟩
    cases heq
  | none =>
    rw [hv4] at h
    obtain ⟨v, hv6, rfl⟩ := map_eq_some_iff.1 h
    have hisIP : isIP addr = 6 := by
      rw [isIP, hv4, hv6]
      rfl
    rw [hisIP, if_neg (by decide), if_pos rfl]
    refine (isPrivateIpv6_iff hv6).trans (not_congr ?_)
    constructor
    · exact fun hboth => ⟨v, rfl, hboth⟩
    · rintro ⟨v', heq, hboth⟩
      cases heq
      exact hboth

end RezChat.Links
