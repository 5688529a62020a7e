/-
The encrypted backups of an account (`storage/ChatBackupStore.js`).

A backup is a stream of artifacts, checkpoints and deltas, each with a sequence number, an expiry and
a ciphertext. The manifest, which says how far the stream goes and how many artifacts it has, is made
anew from the listing after each change, and the listing never has more than five hundred entries,
however many are asked for. A reader goes through the stream by sequence number, which a checkpoint
and a delta may share.
-/
import Mathlib.Data.List.Sort
import RezChat.Contacts.Store
import RezChat.Inbox.Frame
import RezChat.Lib.OrdMap
import RezChat.Lib.Paging

set_option autoImplicit false

namespace RezChat.Backup

open Inbox (trim trimmed trim_trim)
open Contacts (utf16Length)
open List Option Paging Nat OrdMap

/-! ## Artifacts -/

inductive ArtifactType
  | checkpoint
  | delta
  deriving DecidableEq

/-- A stored artifact. What has no ciphertext is not read back. -/
structure Artifact where
  type : ArtifactType
  seq : Nat
  createdAtMs : Int
  expiresAtMs : Int
  sizeClass : String
  ciphertextB64 : String
  sealed : ciphertextB64 ≠ ""

/-- The artifact's place in the store, `<type>/<seq>`. -/
def Artifact.key (a : Artifact) : ArtifactType × Nat := (a.type, a.seq)

/-- `sizeClassOf`. -/
def sizeClassOf (ciphertextB64 : String) : String :=
  let len := utf16Length ciphertextB64
  if len ≤ 4096 then "xs"
  else if len ≤ 32768 then "s"
  else if len ≤ 262144 then "m"
  else if len ≤ 1048576 then "l"
  else "xl"

/-- `clampRetentionDays`, with `none` for what is not a finite number. -/
def clampRetentionDays : Option Int → Int
  | none => 90
  | some n => max 1 (min 3650 n)

/-- `toFiniteMs`, with `none` for what is not a finite number. -/
def toFiniteMs (value : Option Int) (fallback : Int) : Int :=
  match value with
  | some n => if n > 0 then n else fallback
  | none => fallback

/-- The order of a listing: by sequence number, a checkpoint before the delta that shares its own,
and by age. -/
def listedBefore (a b : Artifact) : Prop :=
  if a.seq ≠ b.seq then a.seq < b.seq
  else if a.type ≠ b.type then a.type = .checkpoint
  else a.createdAtMs ≤ b.createdAtMs

instance : DecidableRel listedBefore := fun a b =>
  inferInstanceAs (Decidable (if a.seq ≠ b.seq then a.seq < b.seq
    else if a.type ≠ b.type then a.type = .checkpoint
    else a.createdAtMs ≤ b.createdAtMs))

/-! ## The store -/

/-- What is stored under `meta`. -/
structure BackupMeta where
  updatedAtMs : Int
  lastBackupAtMs : Option Int
  checkpointVersion : Option Nat
  lastDeltaSeq : Option Nat
  lastCheckpointSeq : Option Nat

/-- What is stored under `manifest`. -/
structure Manifest where
  updatedAtMs : Int
  latestSeq : Nat
  latestCheckpointSeq : Option Nat
  itemCount : Nat

/-- The backups of one account. Each artifact stands in the place that it names. -/
structure Store where
  accountHash : String
  retentionDays : Int
  artifacts : OrdMap (ArtifactType × Nat) Artifact
  backupMeta : Option BackupMeta
  manifest : Option Manifest
  keyed : ∀ key a, artifacts.get? key = some a → a.key = key

/-- An entry of a listing. The handle is `<type>:<seq>`. -/
structure Item where
  type : ArtifactType
  seq : Nat
  createdAtMs : Int
  expiresAtMs : Int
  sizeClass : String
  blobHandle : ArtifactType × Nat

def Artifact.item (a : Artifact) : Item :=
  ⟨a.type, a.seq, a.createdAtMs, a.expiresAtMs, a.sizeClass, a.key⟩

structure Listing where
  accountHash : String
  retentionDays : Int
  lastBackupAtMs : Option Int
  checkpointVersion : Option Nat
  items : List Item

/-- What a caller is told of the artifact that it put. -/
structure Receipt where
  seq : Nat
  createdAtMs : Int
  expiresAtMs : Int
  sizeClass : Option String
  accountHash : String

/-- The most that a listing has. -/
def maxListed : Nat := 500

/-- The limit as `list` takes it. -/
def listLimit (limit : Option Int) : Nat :=
  max 1 (min (maxListed : Int) (match limit with
    | none => 200
    | some n => if n = 0 then 200 else n)) |>.toNat

theorem listLimit_pos (limit : Option Int) : 0 < listLimit limit := by
  unfold listLimit
  omega

namespace Store

/-- A store with nothing in it. -/
def fresh (accountHash : String) (retentionDays : Option Int) : Store :=
  ⟨accountHash, clampRetentionDays retentionDays, empty, none, none, fun _ _ h => by cases h⟩

/-- The artifacts that are not expired. -/
def live (s : Store) (clock : Int) : List Artifact :=
  s.artifacts.values.filter fun a => ¬ a.expiresAtMs ≤ clock

/-- `list`. -/
def list (s : Store) (clock : Int) (afterSeq : Option Int) (limit : Option Int) : Listing where
  accountHash := s.accountHash
  retentionDays := s.retentionDays
  lastBackupAtMs := (s.backupMeta.bind (·.lastBackupAtMs)).filter (· ≠ 0)
  checkpointVersion := (s.backupMeta.bind (·.checkpointVersion)).filter (· ≠ 0)
  items :=
    let artifacts := (s.live clock).filter fun a =>
      match afterSeq with
      | none => true
      | some after => ¬ (a.seq : Int) ≤ after
    ((artifacts.insertionSort listedBefore).take (listLimit limit)).map Artifact.item

/-- The manifest that `_upsertManifest` makes. It asks for five thousand entries. -/
def manifestAt (s : Store) (clock : Int) : Manifest :=
  let items := (s.list clock none (some 5000)).items
  let latestCheckpoint := ((items.filter fun item => item.type = .checkpoint).insertionSort
    fun a b => b.seq ≤ a.seq).head?
  { updatedAtMs := toFiniteMs (some clock) clock
    latestSeq := items.foldl (fun max item => Nat.max max item.seq) 0
    latestCheckpointSeq := latestCheckpoint.map (·.seq)
    itemCount := items.length }

/-- `_upsertManifest`. -/
def upsertManifest (s : Store) (clock : Int) : Store :=
  { s with manifest := some (s.manifestAt clock) }

/-- `_upsertMeta`. -/
def upsertMeta (s : Store) (clock : Int) (patch : BackupMeta → BackupMeta) : Store :=
  let current := s.backupMeta.getD ⟨clock, none, none, none, none⟩
  { s with backupMeta := some (patch { current with updatedAtMs := toFiniteMs (some clock) clock }) }

/-- Write an artifact to its place. -/
def setArtifact (s : Store) (a : Artifact) : Store where
  accountHash := s.accountHash
  retentionDays := s.retentionDays
  artifacts := s.artifacts.set a.key a
  backupMeta := s.backupMeta
  manifest := s.manifest
  keyed key b h := by
    rw [get?_set] at h
    split at h
    · next heq =>
      obtain rfl := some_inj.1 h
      exact heq.symm
    · exact s.keyed key b h

/-- What `putDelta` and `putCheckpoint` do: they check the sequence number and the ciphertext, and
write the artifact, what is known of the backup, and the manifest. -/
def put (s : Store) (clock : Int) (type : ArtifactType) (seq : Int) (createdAtMs : Option Int)
    (sizeClass : Option String) (ciphertext : String) (required : String)
    (patch : Int → Nat → BackupMeta → BackupMeta) : Except String (Store × Artifact) :=
  if seq < 0 then .error "seq must be non-negative integer"
  else if h : trim ciphertext = "" then .error required
  else
    let now := toFiniteMs (some clock) clock
    let created := toFiniteMs createdAtMs now
    let artifact : Artifact :=
      { type := type
        seq := seq.toNat
        createdAtMs := created
        expiresAtMs := created + s.retentionDays * 24 * 60 * 60 * 1000
        sizeClass := if trimmed sizeClass = "" then sizeClassOf (trim ciphertext)
          else trimmed sizeClass
        ciphertextB64 := trim ciphertext
        sealed := h }
    .ok ((((s.setArtifact artifact).upsertMeta clock (patch now seq.toNat)).upsertManifest clock),
      artifact)

/-- `putDelta`. -/
def putDelta (s : Store) (clock : Int) (seq : Int) (createdAtMs : Option Int)
    (sizeClass : Option String) (encryptedDelta : String) : Except String (Store × Receipt) := do
  let (s', a) ← s.put clock .delta seq createdAtMs sizeClass encryptedDelta
    "encryptedDelta required" fun now seq row =>
      { row with lastBackupAtMs := some now, lastDeltaSeq := some seq }
  return (s', ⟨a.seq, a.createdAtMs, a.expiresAtMs, some a.sizeClass, s.accountHash⟩)

/-- `putCheckpoint`. -/
def putCheckpoint (s : Store) (clock : Int) (seq : Int) (createdAtMs : Option Int)
    (encryptedCheckpoint : String) : Except String (Store × Receipt) := do
  let (s', a) ← s.put clock .checkpoint seq createdAtMs none encryptedCheckpoint
    "encryptedCheckpoint required" fun now seq row =>
      { row with lastBackupAtMs := some now, checkpointVersion := some seq,
                 lastCheckpointSeq := some seq }
  return (s', ⟨a.seq, a.createdAtMs, a.expiresAtMs, none, s.accountHash⟩)

/-- `getBlob`. -/
def getBlob (s : Store) (clock : Int) (type : ArtifactType) (seq : Int) :
    Except String (Option Artifact) :=
  if seq < 0 then .error "seq must be non-negative integer"
  else .ok ((s.artifacts.get? (type, seq.toNat)).filter fun a => ¬ a.expiresAtMs ≤ clock)

/-- Delete what expires until then. -/
def deleteUntil (s : Store) (now : Int) : Store where
  accountHash := s.accountHash
  retentionDays := s.retentionDays
  artifacts := s.artifacts.filterMap fun a => if a.expiresAtMs > now then some a else none
  backupMeta := s.backupMeta
  manifest := s.manifest
  keyed key a h := by
    rw [get?_filterMap, bind_eq_some_iff] at h
    obtain ⟨b, hb, heq⟩ := h
    split at heq
    · obtain rfl := some_inj.1 heq
      exact s.keyed key b hb
    · cases heq

/-- `prune`, and how many artifacts it deletes. -/
def prune (s : Store) (clock : Int) (nowMs : Option Int) : Store × Nat :=
  let kept := s.deleteUntil (toFiniteMs nowMs clock)
  (kept.upsertManifest clock, s.artifacts.size - kept.artifacts.size)

end Store

/-! ## Runs -/

/-- What is called, with the time that it is called at. -/
inductive Call
  | putDelta (clock : Int) (seq : Int) (createdAtMs : Option Int) (sizeClass : Option String)
      (encryptedDelta : String)
  | putCheckpoint (clock : Int) (seq : Int) (createdAtMs : Option Int) (encryptedCheckpoint : String)
  | prune (clock : Int) (nowMs : Option Int)

/-- A call, which changes nothing if it throws. -/
def Store.step (s : Store) : Call → Store
  | .putDelta clock seq createdAtMs sizeClass encryptedDelta =>
    match s.putDelta clock seq createdAtMs sizeClass encryptedDelta with
    | .ok (s', _) => s'
    | .error _ => s
  | .putCheckpoint clock seq createdAtMs encryptedCheckpoint =>
    match s.putCheckpoint clock seq createdAtMs encryptedCheckpoint with
    | .ok (s', _) => s'
    | .error _ => s
  | .prune clock nowMs => (s.prune clock nowMs).1

def Store.run (s : Store) (calls : List Call) : Store := calls.foldl Store.step s

namespace Store

/-- The pages that a reader reads who goes on behind the last sequence number of each until one is
empty, and whether it came to that. -/
def pages (s : Store) (clock : Int) (limit : Option Int) : Nat → Option Int → List Item × Bool
  | 0, _ => ([], false)
  | n + 1, afterSeq =>
    match (s.list clock afterSeq limit).items.getLast? with
    | none => ([], true)
    | some last => ((s.list clock afterSeq limit).items ++
        (s.pages clock limit n (some last.seq)).1, (s.pages clock limit n (some last.seq)).2)

/-- **The manifest is exact**: it has the greatest sequence number of the artifacts that were live
when it was made, and their number. -/
def ManifestExact (s : Store) : Prop :=
  ∀ m, s.manifest = some m →
    (∀ a ∈ s.live m.updatedAtMs, a.seq ≤ m.latestSeq) ∧
      (s.live m.updatedAtMs ≠ [] → ∃ a ∈ s.live m.updatedAtMs, a.seq = m.latestSeq) ∧
        m.itemCount = (s.live m.updatedAtMs).length

/-- **Reading is exact**: finitely many pages come to an end, and have each live artifact exactly
once. -/
def PagingExact (s : Store) (clock : Int) (limit : Option Int) : Prop :=
  ∃ n, (s.pages clock limit n none).2 = true ∧
    (s.pages clock limit n none).1.Perm ((s.live clock).map Artifact.item)

/-- More artifacts were live when the manifest was made than a listing can have. -/
def Overfull (s : Store) : Prop :=
  ∃ m, s.manifest = some m ∧ maxListed < (s.live m.updatedAtMs).length

/-- A live checkpoint and a live delta have the same sequence number. -/
def Tied (s : Store) (clock : Int) : Prop :=
  ∃ a ∈ s.live clock, ∃ b ∈ s.live clock, a.type = .checkpoint ∧ b.type = .delta ∧ a.seq = b.seq

instance (s : Store) (clock : Int) : Decidable (s.Tied clock) :=
  inferInstanceAs (Decidable (∃ a ∈ s.live clock, ∃ b ∈ s.live clock,
    a.type = .checkpoint ∧ b.type = .delta ∧ a.seq = b.seq))

end Store

/-! ## The order of a listing -/

/-- A checkpoint comes before a delta. -/
def ArtifactType.rank : ArtifactType → Nat
  | .checkpoint => 0
  | .delta => 1

theorem ArtifactType.rank_inj {t u : ArtifactType} (h : t.rank = u.rank) : t = u := by
  cases t <;> cases u <;> first | rfl | cases h

variable {a b : Artifact}

theorem listedBefore_iff : listedBefore a b ↔
    a.seq < b.seq ∨ a.seq = b.seq ∧
      (a.type.rank < b.type.rank ∨ a.type.rank = b.type.rank ∧ a.createdAtMs ≤ b.createdAtMs) := by
  unfold listedBefore
  by_cases hseq : a.seq = b.seq
  · rw [if_neg (not_not.2 hseq)]
    cases ha : a.type <;> cases hb : b.type <;> simp [ArtifactType.rank, hseq]
  · rw [if_pos hseq]
    omega

instance : Std.Total listedBefore where
  total a b := by
    rw [listedBefore_iff, listedBefore_iff]
    omega

instance : IsTrans Artifact listedBefore where
  trans a b c hab hbc := by
    rw [listedBefore_iff] at hab hbc ⊢
    omega

theorem seq_le_of_listedBefore (h : listedBefore a b) : a.seq ≤ b.seq := by
  rw [listedBefore_iff] at h
  omega

/-- What stands in the same place in the order has the same place in the store. -/
theorem key_eq_of_listedBefore (hab : listedBefore a b) (hba : listedBefore b a) :
    a.key = b.key := by
  rw [listedBefore_iff] at hab hba
  have htype : a.type = b.type := ArtifactType.rank_inj (by omega)
  have hseq : a.seq = b.seq := by omega
  rw [Artifact.key, Artifact.key, htype, hseq]

namespace Store

/-! ## Listings -/

variable {s : Store}

theorem get?_of_mem_live {clock : Int} {a : Artifact} (h : a ∈ s.live clock) :
    s.artifacts.get? a.key = some a := by
  obtain ⟨hmem, -⟩ := mem_filter.1 h
  obtain ⟨key, hget⟩ := mem_values_iff.1 hmem
  rwa [s.keyed key a hget]

/-- No two artifacts stand in one place. -/
theorem eq_of_key {clock : Int} {a b : Artifact} (ha : a ∈ s.live clock)
    (hb : b ∈ s.live clock) (h : a.key = b.key) : a = b := by
  have hget := get?_of_mem_live ha
  rw [h, get?_of_mem_live hb] at hget
  exact (some_inj.1 hget).symm

theorem nodup_live (s : Store) (clock : Int) : (s.live clock).Nodup := by
  have hkeys : (s.artifacts.entries.map Prod.fst).Nodup := s.artifacts.nodup
  have hsame : s.artifacts.entries.map Prod.fst = s.artifacts.values.map Artifact.key := by
    rw [values, List.map_map]
    refine map_congr_left fun e he => ?_
    exact (s.keyed e.1 e.2 (mem_entries_iff.1 he)).symm
  rw [hsame] at hkeys
  exact hkeys.of_map.filter _

/-- The live artifacts, as they are listed. -/
def listed (s : Store) (clock : Int) : List Artifact := (s.live clock).insertionSort listedBefore

theorem listed_perm (s : Store) (clock : Int) : (s.listed clock).Perm (s.live clock) :=
  perm_insertionSort _ _

theorem listed_sorted (s : Store) (clock : Int) : (s.listed clock).Pairwise listedBefore :=
  pairwise_insertionSort _ _

/-- Whether what is not asked for is dropped before the sorting or after makes no difference. -/
theorem insertionSort_filter_live (s : Store) (clock : Int) (p : Artifact → Bool) :
    ((s.live clock).filter p).insertionSort listedBefore = (s.listed clock).filter p := by
  refine Perm.eq_of_pairwise ?_ (pairwise_insertionSort _ _)
    ((s.listed_sorted clock).filter p) ?_
  · intro a b ha hb hab hba
    have hlive : ∀ c ∈ (s.listed clock).filter p, c ∈ s.live clock := fun c hc =>
      (s.listed_perm clock).subset (mem_of_mem_filter hc)
    have ha' : a ∈ s.live clock :=
      mem_of_mem_filter ((perm_insertionSort _ _).subset ha)
    exact eq_of_key ha' (hlive b hb) (key_eq_of_listedBefore hab hba)
  · exact (perm_insertionSort _ _).trans ((s.listed_perm clock).symm.filter p)

/-- The reader's order: what has a greater sequence number is behind. -/
def bySeq (a b : Artifact) : Prop := a.seq ≤ b.seq

instance : DecidableRel bySeq := fun a b => inferInstanceAs (Decidable (a.seq ≤ b.seq))

instance : Std.Total bySeq where
  total a b := le_total a.seq b.seq

instance : IsTrans Artifact bySeq where
  trans _ _ _ hab hbc := le_trans hab hbc

theorem listed_bySeq (s : Store) (clock : Int) : (s.listed clock).Pairwise bySeq :=
  (s.listed_sorted clock).imp seq_le_of_listedBefore

/-- A page, from the start or from an artifact on. -/
theorem items_list (s : Store) (clock : Int) (limit : Option Int) (before : Option Artifact) :
    (s.list clock (before.map fun a => (a.seq : Int)) limit).items =
      ((behind bySeq (s.listed clock) before).take (listLimit limit)).map Artifact.item := by
  unfold list
  dsimp only
  rw [insertionSort_filter_live]
  congr 2
  cases before with
  | none => exact filter_eq_self.2 fun _ _ => rfl
  | some last =>
    refine filter_congr fun a _ => ?_
    dsimp only [map_some]
    rw [Bool.eq_iff_iff, decide_eq_true_iff, decide_eq_true_iff]
    exact not_congr Int.ofNat_le

/-- The reader goes through the live artifacts. -/
theorem pages_eq (s : Store) (clock : Int) (limit : Option Int) :
    ∀ (n : Nat) (before : Option Artifact),
      s.pages clock limit n (before.map fun a => (a.seq : Int)) =
        ((walk bySeq (listLimit limit) (s.listed clock) n before).1.map Artifact.item,
          (walk bySeq (listLimit limit) (s.listed clock) n before).2)
  | 0, _ => rfl
  | n + 1, before => by
    rw [pages, walk, items_list, getLast?_map]
    cases hlast : ((behind bySeq (s.listed clock) before).take
        (listLimit limit)).getLast? with
    | none => rfl
    | some last =>
      have hrest := pages_eq s clock limit n (some last)
      rw [map_some] at hrest
      dsimp only [map_some, Artifact.item] at hrest ⊢
      rw [hrest, map_append]

theorem pages_exact_iff (s : Store) (clock : Int) (limit : Option Int) :
    s.PagingExact clock limit ↔ Untied bySeq (listLimit limit) (s.listed clock) := by
  have hsorted := s.listed_bySeq clock
  have hsize := listLimit_pos limit
  have hperm := s.listed_perm clock
  have hpages := fun n => s.pages_eq clock limit n none
  rw [map_none] at hpages
  unfold PagingExact
  generalize s.listed clock = rows at hsorted hperm hpages ⊢
  constructor
  · rintro ⟨n, hends, hall⟩
    rw [hpages] at hends hall
    -- the pages after the last one change nothing
    have hmore := walk_of_ended (le_max_left n (rows.length + 1)) hends
    rw [← hmore] at hall
    have hsub := walk_sublist hsize hsorted
      (show rows.length < max n (rows.length + 1) by omega)
    refine (walk_eq_iff hsize hsorted (by omega)).1 (hsub.eq_of_length ?_)
    have hlength := hall.length_eq
    rwa [length_map, length_map, ← hperm.length_eq] at hlength
  · intro huntied
    have hall := (walk_eq_iff hsize hsorted (lt_succ_self rows.length)).2 huntied
    refine ⟨rows.length + 1, ?_, ?_⟩
    · rw [hpages]
      exact walk_ends hsize hsorted (lt_succ_self _)
    · rw [hpages, hall]
      exact hperm.map _

/-- No two live artifacts have one sequence number, as they are listed. -/
theorem pairwise_bySeq_iff (s : Store) (clock : Int) :
    ((s.listed clock).Pairwise fun a b => ¬ bySeq b a) ↔ ¬ s.Tied clock := by
  have hmem : ∀ a, a ∈ s.listed clock ↔ a ∈ s.live clock := fun a => (s.listed_perm clock).mem_iff
  constructor
  · rintro hlt ⟨a, ha, b, hb, hatype, hbtype, hseq⟩
    have hnodup : ((s.listed clock).map Artifact.seq).Nodup :=
      pairwise_map.2 (hlt.imp fun h => Nat.ne_of_lt (Nat.lt_of_not_le h))
    have heq := inj_on_of_nodup_map hnodup ((hmem a).2 ha) ((hmem b).2 hb) hseq
    rw [heq, hbtype] at hatype
    cases hatype
  · intro htied
    have hne : (s.listed clock).Pairwise fun a b => a.seq ≠ b.seq := by
      refine ((s.listed_perm clock).nodup_iff.2 (s.nodup_live clock)).pairwise_of_forall_ne ?_
      intro a ha b hb hab hseq
      rw [hmem] at ha hb
      -- one of the two is the checkpoint, or they stand in one place
      cases hatype : a.type <;> cases hbtype : b.type
      · exact hab (eq_of_key ha hb (by rw [Artifact.key, Artifact.key, hatype, hbtype, hseq]))
      · exact htied ⟨a, ha, b, hb, hatype, hbtype, hseq⟩
      · exact htied ⟨b, hb, a, ha, hbtype, hatype, hseq.symm⟩
      · exact hab (eq_of_key ha hb (by rw [Artifact.key, Artifact.key, hatype, hbtype, hseq]))
    exact (hne.and (s.listed_bySeq clock)).imp fun h hle => h.1 (le_antisymm h.2 hle)

/-- A limit of one reaches every place where a page may end. -/
theorem paging_exact_all_iff (s : Store) (clock : Int) :
    (∀ limit, s.PagingExact clock limit) ↔ ¬ s.Tied clock := by
  rw [← pairwise_bySeq_iff]
  constructor
  · intro hall
    exact untied_one_iff.1 ((s.pages_exact_iff clock (some 1)).1 (hall (some 1)))
  · intro hlt limit
    exact (s.pages_exact_iff clock limit).2 (untied_of_pairwise (listLimit_pos limit) hlt)

/-! ## The manifest -/

/-- The listing that the manifest is made from. -/
theorem items_manifestAt (s : Store) (clock : Int) :
    (s.list clock none (some 5000)).items =
      ((s.listed clock).take maxListed).map Artifact.item := by
  have hitems := s.items_list clock (some 5000) none
  rw [map_none] at hitems
  exact hitems

/-- The reduction that finds the greatest sequence number. -/
def greatest (start : Nat) (items : List Item) : Nat :=
  items.foldl (fun max item => Nat.max max item.seq) start

theorem greatest_spec (items : List Item) (start : Nat) :
    (∀ item ∈ items, item.seq ≤ greatest start items) ∧ start ≤ greatest start items ∧
      (greatest start items = start ∨ ∃ item ∈ items, item.seq = greatest start items) := by
  induction items generalizing start with
  | nil => exact ⟨fun _ h => (by cases h), le_refl _, .inl rfl⟩
  | cons first items ih =>
    obtain ⟨hall, hstart, hlast⟩ := ih (max start first.seq)
    have hcons : greatest start (first :: items) = greatest (Nat.max start first.seq) items := rfl
    rw [hcons]
    refine ⟨fun item h => ?_, le_trans (le_max_left _ _) hstart, ?_⟩
    · rcases mem_cons.1 h with rfl | hmem
      · exact le_trans (le_max_right _ _) hstart
      · exact hall item hmem
    · rcases hlast with heq | ⟨item, hmem, hseq⟩
      · rcases le_total start first.seq with hle | hle
        · refine .inr ⟨first, mem_cons_self, ?_⟩
          rw [heq]
          exact (max_eq_right hle).symm
        · refine .inl ?_
          rw [heq]
          exact max_eq_left hle
      · exact .inr ⟨item, mem_cons_of_mem _ hmem, hseq⟩

/-- A manifest that was made from all live artifacts. -/
theorem manifestAt_latestSeq (s : Store) (clock : Int)
    (hfits : (s.live clock).length ≤ maxListed) :
    (∀ a ∈ s.live clock, a.seq ≤ (s.manifestAt clock).latestSeq) ∧
      (s.live clock ≠ [] → ∃ a ∈ s.live clock, a.seq = (s.manifestAt clock).latestSeq) := by
  have hperm := s.listed_perm clock
  have hitems := s.items_manifestAt clock
  rw [take_of_length_le (hperm.length_eq ▸ hfits)] at hitems
  have hlatest : (s.manifestAt clock).latestSeq =
      greatest 0 ((s.listed clock).map Artifact.item) := by
    rw [← hitems]
    rfl
  obtain ⟨hall, -, hsome⟩ := greatest_spec ((s.listed clock).map Artifact.item) 0
  rw [← hlatest] at hall hsome
  have hle : ∀ a ∈ s.live clock, a.seq ≤ (s.manifestAt clock).latestSeq := fun a ha =>
    hall a.item (mem_map_of_mem (hperm.mem_iff.2 ha))
  refine ⟨hle, fun hne => ?_⟩
  rcases hsome with hzero | ⟨item, hmem, hseq⟩
  · obtain ⟨a, ha⟩ := exists_mem_of_ne_nil _ hne
    have hseq := hle a ha
    exact ⟨a, ha, by omega⟩
  · obtain ⟨a, ha, rfl⟩ := mem_map.1 hmem
    exact ⟨a, hperm.subset ha, hseq⟩

theorem manifestAt_itemCount (s : Store) (clock : Int) :
    (s.manifestAt clock).itemCount = min maxListed (s.live clock).length := by
  have hcount : (s.manifestAt clock).itemCount = (s.list clock none (some 5000)).items.length := rfl
  rw [hcount, items_manifestAt, length_map, length_take, (s.listed_perm clock).length_eq]

/-- The manifest is the one of the artifacts that are stored. -/
def Current (s : Store) : Prop :=
  ∀ m, s.manifest = some m → m = s.manifestAt m.updatedAtMs

theorem toFiniteMs_self (clock : Int) : toFiniteMs (some clock) clock = clock := by
  unfold toFiniteMs
  exact ite_self clock

theorem current_upsertManifest (s : Store) (clock : Int) : (s.upsertManifest clock).Current := by
  intro m hm
  obtain rfl := some_inj.1 hm
  have hat : (s.manifestAt clock).updatedAtMs = clock := toFiniteMs_self clock
  rw [hat]
  rfl

/-- An accepted artifact leaves a new manifest. -/
theorem put_current {s s' : Store} {clock seq : Int} {type : ArtifactType} {created : Option Int}
    {sizeClass : Option String} {ciphertext required : String} {a : Artifact}
    {patch : Int → Nat → BackupMeta → BackupMeta}
    (h : s.put clock type seq created sizeClass ciphertext required patch = .ok (s', a)) :
    s'.Current := by
  unfold put at h
  split at h
  · cases h
  · split at h
    · cases h
    · cases h
      exact current_upsertManifest _ clock

theorem step_current (h : s.Current) (call : Call) : (s.step call).Current := by
  cases call with
  | putDelta clock seq created sizeClass encryptedDelta =>
    rw [step, putDelta]
    generalize hput : s.put clock .delta seq created sizeClass encryptedDelta _ _ = result
    cases result with
    | error e => exact h
    | ok pair => exact put_current hput
  | putCheckpoint clock seq created encryptedCheckpoint =>
    rw [step, putCheckpoint]
    generalize hput : s.put clock .checkpoint seq created none encryptedCheckpoint _ _ = result
    cases result with
    | error e => exact h
    | ok pair => exact put_current hput
  | prune clock nowMs => exact current_upsertManifest _ clock

theorem run_current (h : s.Current) (calls : List Call) : (s.run calls).Current := by
  induction calls generalizing s with
  | nil => exact h
  | cons call calls ih => exact ih (step_current h call)

theorem manifest_exact_iff (h : s.Current) : s.ManifestExact ↔ ¬ s.Overfull := by
  constructor
  · rintro hexact ⟨m, hm, hover⟩
    obtain ⟨-, -, hcount⟩ := hexact m hm
    rw [h m hm, manifestAt_itemCount, ← h m hm] at hcount
    omega
  · intro hfits m hm
    have hlive : (s.live m.updatedAtMs).length ≤ maxListed := by
      by_contra hover
      exact hfits ⟨m, hm, by omega⟩
    obtain ⟨hall, hsome⟩ := s.manifestAt_latestSeq m.updatedAtMs hlive
    have hcount := s.manifestAt_itemCount m.updatedAtMs
    rw [← h m hm] at hall hsome hcount
    exact ⟨hall, hsome, by omega⟩

/-- **When the backups are exact**: after any calls, the manifest is exact and the stream can be read
in pages of any size exactly if no more artifacts were live when the manifest was made than a
listing can have, and no checkpoint and delta that are live have the same sequence number. -/
theorem exact_iff (accountHash : String) (retentionDays : Option Int) (calls : List Call)
    (clock : Int) :
    (((fresh accountHash retentionDays).run calls).ManifestExact ∧
        ∀ limit, ((fresh accountHash retentionDays).run calls).PagingExact clock limit) ↔
      ¬ ((fresh accountHash retentionDays).run calls).Overfull ∧
        ¬ ((fresh accountHash retentionDays).run calls).Tied clock := by
  have hcurrent : ((fresh accountHash retentionDays).run calls).Current :=
    run_current (fun m hm => by cases hm) calls
  rw [manifest_exact_iff hcurrent, paging_exact_all_iff]

/-- **A delta on no page.** A checkpoint and a delta have the sequence number one. Read in pages of
one, the delta is on none of them. -/
theorem skipped_delta :
    ¬ (((fresh "h" none).run [.putDelta 10 1 none none "c", .putCheckpoint 10 1 none
      "c"]).ManifestExact ∧
      ∀ limit, ((fresh "h" none).run [.putDelta 10 1 none none "c", .putCheckpoint 10 1 none
        "c"]).PagingExact 10 limit) := by
  rw [exact_iff]
  rintro ⟨-, htied⟩
  exact htied (by decide)

end Store

end RezChat.Backup
