/-
Paths and their texts.

A path that is absolute and normalised is a list of names. Its text has a slash before each name.
Being at or below a directory is a relation between lists of names, and a comparison of texts says
less: the text of one path begins with the text of another also where the first goes through a
neighbour of the second whose name merely begins with its name (`text_isPrefix_iff`).
-/
import Mathlib.Data.List.Basic

set_option autoImplicit false

namespace RezChat.Paths

open List

/-- A name in a directory. -/
structure Name where
  chars : List Char
  nonempty : chars ≠ []
  noSlash : '/' ∉ chars
  notDot : chars ≠ ['.']
  notDotDot : chars ≠ ['.', '.']
  deriving DecidableEq

@[ext] theorem Name.ext {m n : Name} (h : m.chars = n.chars) : m = n := by
  cases m
  cases n
  cases h
  rfl

/-- An absolute path without empty names, `.` and `..`. -/
abbrev Path := List Name

/-- The names, with a slash before each. -/
def joined : Path → List Char
  | [] => []
  | n :: p => '/' :: (n.chars ++ joined p)

/-- A path as it is written. -/
def text (p : Path) : List Char := if p = [] then ['/'] else joined p

/-! ## Resolving -/

/-- From a directory on, by what stands between two slashes. -/
def stepInto (dir : Path) (piece : List Char) : Path :=
  if piece = ['.', '.'] then dir.dropLast
  else if h : piece ≠ [] ∧ '/' ∉ piece ∧ piece ≠ ['.'] ∧ piece ≠ ['.', '.'] then
    dir ++ [⟨piece, h.1, h.2.1, h.2.2.1, h.2.2.2⟩]
  else dir

/-- From a directory on, by a text. -/
def enter (dir : Path) (s : List Char) : Path := (s.splitOn '/').foldl stepInto dir

/-- A text that begins with a slash starts at the root. -/
def resolveFrom (dir : Path) (s : List Char) : Path :=
  if s.head? = some '/' then enter [] s else enter dir s

/-- `path.resolve`, in a working directory. -/
def resolve (cwd : Path) (segments : List (List Char)) : Path := segments.foldl resolveFrom cwd

theorem stepInto_name (dir : Path) (n : Name) : stepInto dir n.chars = dir ++ [n] := by
  rw [stepInto, if_neg n.notDotDot, dif_pos ⟨n.nonempty, n.noSlash, n.notDot, n.notDotDot⟩]

theorem joined_eq_intercalate (p : Path) : joined p = ['/'].intercalate ([] :: p.map Name.chars) := by
  induction p with
  | nil => rfl
  | cons n p ih =>
    rw [joined, ih]
    cases p <;> simp [List.intercalate]

theorem splitOn_joined (p : Path) : (joined p).splitOn '/' = [] :: p.map Name.chars := by
  rw [joined_eq_intercalate, splitOn_intercalate]
  · intro l hl
    rcases mem_cons.1 hl with rfl | hmem
    · exact not_mem_nil
    · obtain ⟨n, -, rfl⟩ := List.mem_map.1 hmem
      exact n.noSlash
  · exact cons_ne_nil _ _

theorem enter_joined (dir p : Path) : enter dir (joined p) = dir ++ p := by
  have hnames : ∀ (p dir : Path), (p.map Name.chars).foldl stepInto dir = dir ++ p := by
    intro p
    induction p with
    | nil => exact fun dir => (append_nil dir).symm
    | cons n p ih =>
      intro dir
      rw [map_cons, foldl_cons, stepInto_name, ih, append_assoc]
      rfl
  rw [enter, splitOn_joined, foldl_cons]
  exact hnames p dir

/-- The text of a path leads to it from everywhere. -/
theorem resolveFrom_text (dir p : Path) : resolveFrom dir (text p) = p := by
  cases p with
  | nil => exact if_pos rfl
  | cons n p =>
    have htext : text (n :: p) = joined (n :: p) := if_neg (cons_ne_nil _ _)
    have hslash : (joined (n :: p)).head? = some '/' := rfl
    rw [resolveFrom, htext, if_pos hslash, enter_joined]
    rfl

/-! ## Texts that begin with a text -/

/-- The path goes through a neighbour of the directory whose name is longer and begins with its
name. -/
def Beside (dir p : Path) : Prop :=
  ∃ parent name other rest, dir = parent ++ [name] ∧ p = parent ++ other :: rest ∧
    name.chars <+: other.chars ∧ name ≠ other

theorem joined_of_cons {n : Name} {p : Path} : joined (n :: p) = '/' :: (n.chars ++ joined p) := rfl

/-- The rest of a text after a name is empty, or begins with a slash. -/
theorem head_joined {p : Path} {c : Char} (h : (joined p).head? = some c) : c = '/' := by
  cases p with
  | nil => cases h
  | cons n p => exact (Option.some_inj.1 h).symm

/-- A name that a text begins with is within the text's first name. -/
theorem isPrefix_of_isPrefix_append {l m tail : List Char} (hl : '/' ∉ l)
    (htail : ∀ c, tail.head? = some c → c = '/') (h : l <+: m ++ tail) : l <+: m := by
  rcases prefix_or_prefix_of_prefix h (prefix_append m tail) with hlm | hml
  · exact hlm
  · obtain ⟨more, rfl⟩ := hml
    rw [prefix_append_right_inj] at h
    cases more with
    | nil => exact (append_nil m).symm ▸ prefix_refl m
    | cons c more =>
      obtain ⟨after, rfl⟩ := h
      have hslash := htail c rfl
      rw [hslash] at hl
      exact absurd (mem_append_right m mem_cons_self) hl

/-- Two names with a slash behind each that begin alike are the same. -/
theorem eq_of_isPrefix_append {l m s t : List Char} (hl : '/' ∉ l) (hm : '/' ∉ m)
    (ht : ∀ c, t.head? = some c → c = '/') (h : l ++ '/' :: s <+: m ++ t) : l = m := by
  have hlm : l <+: m :=
    isPrefix_of_isPrefix_append hl ht ((prefix_append l ('/' :: s)).trans h)
  obtain ⟨more, rfl⟩ := hlm
  rw [append_assoc, prefix_append_right_inj] at h
  cases more with
  | nil => exact (append_nil l).symm
  | cons c more =>
    rw [cons_append, cons_prefix_cons] at h
    rw [← h.1] at hm
    exact absurd (mem_append_right l mem_cons_self) hm

theorem Beside.cons {n : Name} {dir p : Path} (h : Beside dir p) : Beside (n :: dir) (n :: p) := by
  obtain ⟨parent, name, other, rest, rfl, rfl, hprefix, hne⟩ := h
  exact ⟨n :: parent, name, other, rest, rfl, rfl, hprefix, hne⟩

theorem Beside.not_isPrefix {dir p : Path} (h : Beside dir p) : ¬ dir <+: p := by
  obtain ⟨parent, name, other, rest, rfl, rfl, -, hne⟩ := h
  intro hprefix
  rw [prefix_append_right_inj, cons_prefix_cons] at hprefix
  exact hne hprefix.1

theorem joined_append (p q : Path) : joined (p ++ q) = joined p ++ joined q := by
  induction p with
  | nil => rfl
  | cons n p ih => rw [cons_append, joined_of_cons, joined_of_cons, ih, cons_append,
      append_assoc]

theorem joined_isPrefix_of {dir p : Path} (h : dir <+: p ∨ Beside dir p) :
    joined dir <+: joined p := by
  rcases h with ⟨rest, rfl⟩ | ⟨parent, name, other, rest, rfl, rfl, hprefix, -⟩
  · rw [joined_append]
    exact prefix_append _ _
  · rw [joined_append, joined_append, prefix_append_right_inj, joined_of_cons, joined_of_cons,
      cons_prefix_cons, joined, append_nil]
    exact ⟨rfl, hprefix.trans (prefix_append _ _)⟩

/-- The induction is on the directory: all names but its last one have a slash behind them. -/
theorem of_joined_isPrefix : ∀ {dir p : Path}, joined dir <+: joined p → dir <+: p ∨ Beside dir p
  | [], _, _ => .inl nil_prefix
  | n :: dir, [], h => absurd (prefix_nil.1 h) (cons_ne_nil _ _)
  | [n], m :: p, h => by
    rw [joined_of_cons, joined_of_cons, cons_prefix_cons, joined, append_nil] at h
    have hnm := isPrefix_of_isPrefix_append n.noSlash (fun _ => head_joined) h.2
    by_cases heq : n = m
    · rw [heq]
      exact .inl (cons_prefix_cons.2 ⟨rfl, nil_prefix⟩)
    · exact .inr ⟨[], n, m, p, rfl, rfl, hnm, heq⟩
  | n :: n' :: dir, m :: p, h => by
    rw [joined_of_cons, joined_of_cons, joined_of_cons, cons_prefix_cons] at h
    obtain rfl : n = m := Name.ext
      (eq_of_isPrefix_append n.noSlash m.noSlash (fun _ => head_joined) h.2)
    have hnames : joined (n' :: dir) <+: joined p := (prefix_append_right_inj _).1 h.2
    exact (of_joined_isPrefix hnames).imp (fun hdir => cons_prefix_cons.2 ⟨rfl, hdir⟩) Beside.cons

/-- **What a comparison of texts says.** -/
theorem text_isPrefix_iff {dir p : Path} : text dir <+: text p ↔ dir <+: p ∨ Beside dir p := by
  cases dir with
  | nil =>
    refine ⟨fun _ => .inl nil_prefix, fun _ => ?_⟩
    cases p with
    | nil => exact prefix_refl _
    | cons n p => exact ⟨n.chars ++ joined p, rfl⟩
  | cons n dir =>
    rw [text, if_neg (cons_ne_nil _ _)]
    cases p with
    | nil =>
      -- a name is more than a slash
      constructor
      · intro h
        have hle := h.length_le
        have hpos := length_pos_of_ne_nil n.nonempty
        rw [joined_of_cons, length_cons, length_append, text, if_pos rfl,
          length_singleton] at hle
        omega
      · intro h
        exact absurd (prefix_nil.1 (joined_isPrefix_of h)) (cons_ne_nil _ _)
    | cons m p =>
      rw [text, if_neg (cons_ne_nil _ _)]
      exact ⟨of_joined_isPrefix, joined_isPrefix_of⟩

end RezChat.Paths
