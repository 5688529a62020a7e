/-
Links in a text (`ui/presenters/linkify.js`).

A text is scanned for runs behind a scheme, and punctuation at the end of a run goes back to the text.
What is found is lossless: the segments put together are the text, and none is empty. But a run may be
punctuation only, and then nothing is left of it behind the scheme, which is a link all the same. That
is the only way in which a link has no remainder (`tokenizes_iff`).

A text is a list of code units. `URL_RX` is written out: a run has no parenthesis in it, so what
`tidyUrl` does about parentheses never applies to one.
-/
import Mathlib.Data.List.TakeWhile
import RezChat.Inbox.Frame

set_option autoImplicit false

namespace RezChat.Linkify

open Inbox (isJsSpace)
open List

abbrev Units := List UInt16

/-- The code units of an ASCII text. -/
def units (s : String) : Units := s.toList.map fun c => c.toNat.toUInt16

def isWord (u : UInt16) : Bool :=
  (48 ≤ u && u ≤ 57) || (65 ≤ u && u ≤ 90) || (97 ≤ u && u ≤ 122) || u = 95

/-- An ASCII letter as the `i` flag compares it. -/
def folded (u : UInt16) : UInt16 := if 65 ≤ u && u ≤ 90 then u + 32 else u

/-- `[^\s<>"'()\[\]{}]`, with the excluded units in that order. -/
def isUrlUnit (u : UInt16) : Bool :=
  !isJsSpace (Char.ofNat u.toNat) && u ∉ [60, 62, 34, 39, 40, 41, 91, 93, 123, 125].map UInt16.ofNat

/-- The class of `TRAILING_NOISE`. -/
def isNoise (u : UInt16) : Bool :=
  u ∈ [41, 46, 44, 59, 58, 33, 63, 0x2014, 0x2013, 39, 34, 0x201C, 0x201D].map UInt16.ofNat

/-- How long the scheme is that a text begins with. -/
def schemeLength (s : Units) : Option Nat :=
  if (s.take 4).map folded = units "http" ∧ (s.drop 4).take 3 = units "://" then some 7
  else if (s.take 5).map folded = units "https" ∧ (s.drop 5).take 3 = units "://" then some 8
  else none

/-- How long the match of `URL_RX` is that begins here, behind that unit. -/
def matchAt (prev : Option UInt16) (s : Units) : Option Nat :=
  -- the boundary before the scheme
  if prev.any isWord then none
  else
    match schemeLength s with
    | none => none
    | some n =>
      let run := (s.drop n).takeWhile isUrlUnit
      if run = [] then none else some (n + run.length)

/-- `URL_RX.exec`: what is before the next match, the match, and what is behind it. -/
def exec : Option UInt16 → Units → Option (Units × Units × Units)
  | _, [] => none
  | prev, u :: s =>
    match matchAt prev (u :: s) with
    | some n => some ([], (u :: s).take n, (u :: s).drop n)
    | none => (exec (some u) s).map fun (before, raw, after) => (u :: before, raw, after)

/-- The closing parentheses that are too many at the end, for a text from its end. -/
def balanced : Units → Units
  | [] => []
  | u :: s => if u = 41 ∧ (u :: s).count 40 < (u :: s).count 41 then balanced s else u :: s

/-- `tidyUrl`. -/
def tidyUrl (raw : Units) : Units := ((balanced raw.reverse).dropWhile isNoise).reverse

inductive Segment
  | text (value : Units)
  | url (url label : Units)
deriving DecidableEq

/-- The value of a text and the label of a link. -/
def Segment.shown : Segment → Units
  | .text value => value
  | .url _ label => label

def textSegment (s : Units) : List Segment := if s = [] then [] else [.text s]

/-- What a match becomes. -/
def matchSegments (raw : Units) : List Segment :=
  let url := tidyUrl raw
  if url = [] then [.text raw] else .url url url :: textSegment (raw.drop url.length)

/-- The loop. A match is not empty, so the length of the text is enough fuel. -/
def tokenizeFrom : Nat → Option UInt16 → Units → List Segment
  | 0, _, _ => []
  | fuel + 1, prev, rest =>
    match exec prev rest with
    | none => textSegment rest
    | some (before, raw, after) =>
      textSegment before ++ matchSegments raw ++ tokenizeFrom fuel raw.getLast? after

/-- `tokenizeText`. -/
def tokenizeText (text : Units) : List Segment := tokenizeFrom (text.length + 1) none text

/-- The matches of `URL_RX`, one after the other. -/
def matchesFrom : Nat → Option UInt16 → Units → List Units
  | 0, _, _ => []
  | fuel + 1, prev, rest =>
    match exec prev rest with
    | none => []
    | some (_, raw, after) => raw :: matchesFrom fuel raw.getLast? after

def urlMatches (text : Units) : List Units := matchesFrom (text.length + 1) none text

/-! ## What is claimed of a link -/

def IsScheme (s : Units) : Prop :=
  ∃ name, s = name ++ units "://" ∧ (name.map folded = units "http" ∨ name.map folded = units "https")

/-- A scheme, and a remainder without white space, quotes, brackets or angle brackets. -/
def IsUrl (s : Units) : Prop :=
  ∃ scheme rest, s = scheme ++ rest ∧ IsScheme scheme ∧ rest ≠ [] ∧ rest.all isUrlUnit = true

/-- There is more behind the scheme than punctuation. -/
def NotOnlyNoise (raw : Units) : Prop :=
  ∀ scheme rest, raw = scheme ++ rest → IsScheme scheme → ∃ u ∈ rest, isNoise u = false

/-! ## Matches -/

variable {s scheme rest before raw after : Units} {prev : Option UInt16} {n : Nat}

theorem schemeLength_eq_some (h : schemeLength s = some n) : IsScheme (s.take n) := by
  rw [schemeLength] at h
  split_ifs at h with hhttp hhttps
  · cases h
    refine ⟨s.take 4, ?_, .inl hhttp.1⟩
    rw [← hhttp.2]
    exact take_add (i := 4) (j := 3)
  · cases h
    refine ⟨s.take 5, ?_, .inr hhttps.1⟩
    rw [← hhttps.2]
    exact take_add (i := 5) (j := 3)

/-- **A match** is a scheme with a run behind it. -/
theorem matchAt_eq_some (h : matchAt prev s = some n) : IsUrl (s.take n) := by
  rw [matchAt] at h
  split at h
  · cases h
  · cases hscheme : schemeLength s with
    | none =>
      rw [hscheme] at h
      cases h
    | some m =>
      rw [hscheme] at h
      dsimp only at h
      split at h
      · cases h
      · next hrun =>
        cases h
        refine ⟨s.take m, (s.drop m).takeWhile isUrlUnit, ?_, schemeLength_eq_some hscheme, hrun,
          all_takeWhile⟩
        rw [take_add]
        congr 1
        exact (prefix_iff_eq_take.1 ( takeWhile_prefix _)).symm

theorem exec_eq_some (h : exec prev s = some (before, raw, after)) :
    s = before ++ raw ++ after ∧ IsUrl raw := by
  induction s generalizing prev before with
  | nil => cases h
  | cons u s ih =>
    rw [exec] at h
    split at h
    · next n hmatch =>
      cases h
      exact ⟨(take_append_drop n (u :: s)).symm, matchAt_eq_some hmatch⟩
    · obtain ⟨⟨before', raw', after'⟩, hexec, heq⟩ := Option.map_eq_some_iff.1 h
      cases heq
      obtain ⟨rfl, hurl⟩ := ih hexec
      exact ⟨rfl, hurl⟩

/-! ## What is left of a match -/

/-- The scheme of a text is the only one. -/
theorem scheme_unique {scheme' rest' : Units} (h : scheme ++ rest = scheme' ++ rest')
    (hscheme : IsScheme scheme) (hscheme' : IsScheme scheme') : scheme = scheme' ∧ rest = rest' := by
  obtain ⟨name, rfl, hname⟩ := hscheme
  obtain ⟨name', rfl, hname'⟩ := hscheme'
  -- behind `http` there is either an `s` or a colon
  have hclash : ∀ {a b r t : Units}, a.map folded = units "http" → b.map folded = units "https" →
      a ++ units "://" ++ r ≠ b ++ units "://" ++ t := by
    intro a b r t ha hb hsame
    have hfour := congrArg (fun l : Units => (l.map folded)[4]?) hsame
    simp only [append_assoc, map_append, ha, hb] at hfour
    exact absurd hfour (by simp [units, folded])
  have hlength : name.length = name'.length := by
    rcases hname with hname | hname <;> rcases hname' with hname' | hname'
    · simpa using congrArg length (hname.trans hname'.symm)
    · exact absurd h (hclash hname hname')
    · exact absurd h.symm (hclash hname' hname)
    · simpa using congrArg length (hname.trans hname'.symm)
  exact append_inj h (by rw [length_append, length_append, hlength])

/-- What is left of a run. -/
def strip (rest : Units) : Units := (rest.reverse.dropWhile isNoise).reverse

theorem strip_prefixed (rest : Units) : strip rest <+: rest := by
  have hsuffix := dropWhile_suffix isNoise (l := rest.reverse)
  exact reverse_suffix.1 (by rwa [strip, reverse_reverse])

theorem strip_eq_nil : strip rest = [] ↔ ∀ u ∈ rest, isNoise u = true := by
  rw [strip, reverse_eq_nil_iff, dropWhile_eq_nil_iff]
  simp only [mem_reverse]

/-- Tidying takes the punctuation from the end of a run, and nothing from the scheme. -/
theorem tidyUrl_append (hscheme : IsScheme scheme) (hrest : rest.all isUrlUnit = true)
    (hne : rest ≠ []) : tidyUrl (scheme ++ rest) = scheme ++ strip rest := by
  have hbalanced : balanced (scheme ++ rest).reverse = (scheme ++ rest).reverse := by
    obtain ⟨s, u, rfl⟩ := (eq_nil_or_concat' rest).resolve_left hne
    have hu : u ≠ 41 := by
      rintro rfl
      rw [all_append, Bool.and_eq_true] at hrest
      exact absurd hrest.2 (by decide)
    rw [← append_assoc, reverse_append]
    exact if_neg fun h => hu h.1
  obtain ⟨name, rfl, -⟩ := hscheme
  rw [tidyUrl, hbalanced, reverse_append, dropWhile_append]
  split
  · next hall =>
    have hnil : strip rest = [] := by
      rw [strip, isEmpty_iff.1 hall]
      rfl
    -- the slash at the end of the scheme stays
    have hkept : (name ++ units "://").reverse.dropWhile isNoise = (name ++ units "://").reverse := by
      rw [reverse_append]
      exact dropWhile_cons_of_neg (by decide)
    rw [hkept, reverse_reverse, hnil, append_nil]
  · rw [reverse_append, reverse_reverse, strip]

/-- A match has something left behind its scheme exactly if it is not only punctuation there. -/
theorem isUrl_tidyUrl (h : IsUrl raw) : IsUrl (tidyUrl raw) ↔ NotOnlyNoise raw := by
  obtain ⟨scheme, rest, rfl, hscheme, hne, hrest⟩ := h
  have hsome : strip rest ≠ [] ↔ ∃ u ∈ rest, isNoise u = false := by
    rw [ne_eq, strip_eq_nil]
    simp
  rw [tidyUrl_append hscheme hrest hne]
  constructor
  · rintro ⟨scheme', rest', hsame, hscheme', hne', -⟩ scheme₂ rest₂ hsame₂ hscheme₂
    obtain ⟨-, hleft⟩ := scheme_unique hsame hscheme hscheme'
    obtain ⟨-, rfl⟩ := scheme_unique hsame₂ hscheme hscheme₂
    rw [← hleft] at hne'
    exact hsome.1 hne'
  · intro hnoise
    refine ⟨scheme, strip rest, rfl, hscheme, hsome.2 (hnoise scheme rest rfl hscheme), ?_⟩
    exact all_eq_true.2 fun u hu => all_eq_true.1 hrest u ((strip_prefixed rest).subset hu)

/-! ## Segments -/

/-- The segments put together are a text, and none is empty. -/
def Covers (segments : List Segment) (text : Units) : Prop :=
  (segments.map Segment.shown).flatten = text ∧ ∀ segment ∈ segments, segment.shown ≠ []

def Sound (segments : List Segment) : Prop :=
  ∀ url label, Segment.url url label ∈ segments → IsUrl url

theorem Covers.append {l m : List Segment} {a b : Units} (hl : Covers l a) (hm : Covers m b) :
    Covers (l ++ m) (a ++ b) := by
  refine ⟨?_, fun segment h => (mem_append.1 h).elim (hl.2 segment) (hm.2 segment)⟩
  rw [map_append, flatten_append, hl.1, hm.1]

theorem sound_append {l m : List Segment} : Sound (l ++ m) ↔ Sound l ∧ Sound m := by
  constructor
  · exact fun h => ⟨fun u v hu => h u v (mem_append_left _ hu),
      fun u v hu => h u v (mem_append_right _ hu)⟩
  · rintro ⟨hl, hm⟩ u v hu
    exact (mem_append.1 hu).elim (hl u v) (hm u v)

theorem covers_textSegment (s : Units) : Covers (textSegment s) s := by
  rw [textSegment]
  split
  · next hs =>
    rw [hs]
    exact ⟨rfl, fun _ h => (nomatch h)⟩
  · next hs => exact ⟨append_nil s, by simpa [Segment.shown] using hs⟩

theorem sound_textSegment (s : Units) : Sound (textSegment s) := by
  intro u v h
  rw [textSegment] at h
  split at h <;> simp at h

theorem matchSegments_spec (h : IsUrl raw) :
    Covers (matchSegments raw) raw ∧ (Sound (matchSegments raw) ↔ NotOnlyNoise raw) := by
  obtain ⟨scheme, rest, rfl, hscheme, hne, hrest⟩ := id h
  have htidy := tidyUrl_append hscheme hrest hne
  obtain ⟨behind, hbehind⟩ := strip_prefixed rest
  have hsplit : scheme ++ rest = tidyUrl (scheme ++ rest) ++ behind := by
    rw [htidy, append_assoc, hbehind]
  have hnonempty : tidyUrl (scheme ++ rest) ≠ [] := by
    obtain ⟨name, rfl, -⟩ := hscheme
    rw [htidy]
    simp [units]
  have hdrop : (scheme ++ rest).drop (tidyUrl (scheme ++ rest)).length = behind :=
    (congrArg (drop _) hsplit).trans drop_left
  have hone : Sound [Segment.url (tidyUrl (scheme ++ rest)) (tidyUrl (scheme ++ rest))] ↔
      IsUrl (tidyUrl (scheme ++ rest)) := by
    constructor
    · exact fun hsound => hsound _ _ mem_cons_self
    · intro hurl u v hmem
      cases mem_singleton.1 hmem
      exact hurl
  rw [matchSegments, if_neg hnonempty, hdrop, ← isUrl_tidyUrl h]
  constructor
  · have hurl : Covers [Segment.url (tidyUrl (scheme ++ rest)) (tidyUrl (scheme ++ rest))]
        (tidyUrl (scheme ++ rest)) :=
      ⟨append_nil _, by simpa [Segment.shown] using hnonempty⟩
    have hboth := hurl.append (covers_textSegment behind)
    rwa [← hsplit] at hboth
  · refine (sound_append (l := [_])).trans ?_
    rw [hone]
    exact and_iff_left (sound_textSegment behind)

/-- What the loop puts out, from anywhere in a text. -/
theorem tokenizeFrom_spec (fuel : Nat) (prev : Option UInt16) (s : Units) (h : s.length < fuel) :
    Covers (tokenizeFrom fuel prev s) s ∧
      (Sound (tokenizeFrom fuel prev s) ↔ ∀ raw ∈ matchesFrom fuel prev s, NotOnlyNoise raw) := by
  induction fuel generalizing prev s with
  | zero => omega
  | succ fuel ih =>
    rw [tokenizeFrom, matchesFrom]
    cases hexec : exec prev s with
    | none =>
      exact ⟨covers_textSegment s, iff_of_true (sound_textSegment s) fun _ hmem => (nomatch hmem)⟩
    | some found =>
      obtain ⟨before, raw, after⟩ := found
      obtain ⟨rfl, hurl⟩ := exec_eq_some hexec
      have hraw : 0 < raw.length := by
        obtain ⟨scheme, rest, rfl, -, hne, -⟩ := hurl
        have hrest := length_pos_iff.2 hne
        rw [length_append]
        omega
      have hshorter : after.length < fuel := by
        rw [length_append, length_append] at h
        omega
      obtain ⟨hcovers, hsound⟩ := ih raw.getLast? after hshorter
      obtain ⟨hmatch, hlink⟩ := matchSegments_spec hurl
      refine ⟨((covers_textSegment before).append hmatch).append hcovers, ?_⟩
      dsimp only
      rw [sound_append, sound_append, and_iff_right (sound_textSegment before), hlink, hsound,
        forall_mem_cons]

/-- **Tokenizing.** The segments are the text again and none is empty; and every link has a remainder
behind its scheme exactly if no match has only punctuation there. -/
theorem tokenizes_iff (text : Units) :
    Covers (tokenizeText text) text ∧
      (Covers (tokenizeText text) text ∧ Sound (tokenizeText text) ↔
        ∀ raw ∈ urlMatches text, NotOnlyNoise raw) := by
  obtain ⟨hcovers, hsound⟩ := tokenizeFrom_spec (text.length + 1) none text (Nat.lt_succ_self _)
  exact ⟨hcovers, (and_iff_right hcovers).trans hsound⟩

/-- **A scheme and three dots.** The scheme alone becomes a link. -/
theorem dots_only : ¬ ∀ text, Covers (tokenizeText text) text ∧ Sound (tokenizeText text) := by
  intro hall
  have hlink : Segment.url (units "https://") (units "https://") ∈
      tokenizeText (units "https://...") := by decide
  obtain ⟨scheme, rest, hsame, hscheme, hne, -⟩ := (hall (units "https://...")).2 _ _ hlink
  have hbare : IsScheme (units "https://") := ⟨units "https", rfl, .inr (by decide)⟩
  obtain ⟨-, hrest⟩ := scheme_unique ((append_nil _).trans hsame) hbare hscheme
  exact hne hrest.symm

end RezChat.Linkify
