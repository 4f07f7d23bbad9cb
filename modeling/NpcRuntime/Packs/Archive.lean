import NpcRuntime.Lib.Lists
import NpcRuntime.Lib.Path
import NpcRuntime.Lib.Result
import NpcRuntime.Lib.Saturating
import NpcRuntime.Lib.Table

/-!
# Archive preflight

`validate_relative_archive_path` and `validate_archive_entries` of `model-manager/src/archive.rs`:
the members of an archive are checked against Windows path rules, size limits and one another before
any of them is written.

The members are checked in one pass, each against those before it. A file behind a member that lies
below it passes (`file_behind_its_child`), so the preflight keeps its promise exactly for the lists
without a file above another member (`preflight_sound_iff`).
-/

namespace NpcRuntime.Packs

open Text NpcRuntime.Path

/-- `str::to_ascii_lowercase`. -/
def toAsciiLowercase (t : Text) : Text := t.map Char.toLower

def windowsReserved : List Text :=
  ["con", "prn", "aux", "nul", "clock$", "com1", "com2", "com3", "com4", "com5", "com6", "com7",
    "com8", "com9", "lpt1", "lpt2", "lpt3", "lpt4", "lpt5", "lpt6", "lpt7", "lpt8",
    "lpt9"].map String.toList

structure ValidatedArchivePath where
  value : Text
deriving DecidableEq

inductive ArchivePathError where
  | empty
  | tooLong
  | controlCharacter
  | absoluteOrUnc
  | drivePrefix
  | emptyComponent
  | traversal
  | alternateDataStream
  | trailingDotOrSpace
  | componentTooLong
  | reservedDeviceName (component : Text)
  | invalidWindowsCharacter
deriving DecidableEq

/-- `input.replace('\\', "/")`. -/
def forwardSlashes (input : Text) : Text := input.map fun c => if c = '\\' then '/' else c

/-- The second byte is a colon. -/
def hasDrivePrefix : Text → Bool
  | c :: ':' :: _ => c.utf8Size == 1
  | _ => false

/-- The name of a component in front of its extensions, lowercased. -/
def deviceBase (component : Text) : Text := toAsciiLowercase (component.takeWhile (· != '.'))

/-- The body of the loop over the components. -/
def validateComponent (component : Text) : Except ArchivePathError Unit := do
  require (component != []) .emptyComponent
  require (component != ['.'] && component != ['.', '.']) .traversal
  require (!component.contains ':') .alternateDataStream
  require (!component.getLast?.any fun c => c == ' ' || c == '.') .trailingDotOrSpace
  require (decide (utf8Len component ≤ 255)) .componentTooLong
  require (!windowsReserved.contains (deviceBase component)) (.reservedDeviceName component)
  require (!component.any fun c => ['<', '>', '"', '|', '?', '*'].contains c)
    .invalidWindowsCharacter

def validateRelativeArchivePath (input : Text) :
    Except ArchivePathError ValidatedArchivePath := do
  require (input != []) .empty
  require (decide (utf8Len input ≤ 1024)) .tooLong
  require (!input.any isControl) .controlCharacter
  let normalized := forwardSlashes input
  require (normalized.head? != some '/') .absoluteOrUnc
  require (!hasDrivePrefix normalized) .drivePrefix
  (components normalized).forM validateComponent
  return ⟨join (components normalized)⟩

/-! ## Archive entries -/

inductive ArchiveEntryKind where
  | file
  | directory
  | symlink
  | hardlink
  | device
deriving DecidableEq

structure ArchiveEntry where
  path : Text
  kind : ArchiveEntryKind
  uncompressedSize : Nat
deriving DecidableEq

structure ArchivePolicy where
  maxEntries : Nat := 100000
  maxUncompressedBytes : Nat := 549755813888
  maxSingleFileBytes : Nat := 137438953472
deriving DecidableEq

inductive ArchiveValidationError where
  | path (error : ArchivePathError)
  | entryLimit
  | sizeLimit
  | singleFileLimit (path : Text)
  | unsupportedEntryType (path : Text) (kind : ArchiveEntryKind)
  | caseFoldCollision (path : Text)
  | fileAsParent (parent : Text)
deriving DecidableEq

namespace ArchiveEntry

/-- The path that is checked: a directory may carry one terminal slash. -/
def candidate (entry : ArchiveEntry) : Text :=
  if entry.kind = .directory ∧ entry.path.getLast? = some '/' then entry.path.dropLast
  else entry.path

end ArchiveEntry

/-- What the pass has seen. -/
structure Preflight where
  seen : List Text := []
  kinds : Table Text ArchiveEntryKind := ∅
  total : Nat := 0
  validated : List ValidatedArchivePath := []

/-- The body of the loop over the entries. -/
def checkEntry (policy : ArchivePolicy) (state : Preflight) (entry : ArchiveEntry) :
    Except ArchiveValidationError Preflight := do
  require (entry.kind == .file || entry.kind == .directory)
    (.unsupportedEntryType entry.path entry.kind)
  require (decide (entry.uncompressedSize ≤ policy.maxSingleFileBytes))
    (.singleFileLimit entry.path)
  let total := state.total + entry.uncompressedSize
  require (decide (total ≤ u64Max)) .sizeLimit
  require (decide (total ≤ policy.maxUncompressedBytes)) .sizeLimit
  let path ← (validateRelativeArchivePath entry.candidate).mapError .path
  let folded := toAsciiLowercase path.value
  require (!state.seen.contains folded) (.caseFoldCollision path.value)
  (parents folded).forM fun parent =>
    require (state.kinds.lookup parent != some .file) (.fileAsParent parent)
  return { seen := folded :: state.seen
           kinds := state.kinds.insert folded entry.kind
           total
           validated := state.validated ++ [path] }

def validateArchiveEntries (entries : List ArchiveEntry) (policy : ArchivePolicy) :
    Except ArchiveValidationError (List ValidatedArchivePath) := do
  require (decide (entries.length ≤ policy.maxEntries)) .entryLimit
  let state ← entries.foldlM (checkEntry policy) {}
  return state.validated

/-! ## Paths -/

/-- A component that names a member of its own directory on Windows. -/
structure SafeComponent (component : Text) : Prop where
  nonempty : component ≠ []
  current : component ≠ ['.']
  parent : component ≠ ['.', '.']
  stream : ':' ∉ component
  reserved : deviceBase component ∉ windowsReserved

/-- A relative path of safe components. -/
structure SafePath (path : Text) : Prop where
  relative : path.head? ≠ some '/'
  drive : hasDrivePrefix path = false
  components : ∀ component ∈ components path, SafeComponent component

theorem validateComponent_safe {component : Text} (h : validateComponent component = .ok ()) :
    SafeComponent component := by
  simp only [validateComponent, bind_eq_ok, require_eq_ok, bne_iff_ne, Bool.and_eq_true,
    Bool.not_eq_true', List.contains_eq_mem, decide_eq_false_iff_not] at h
  obtain ⟨_, hnonempty, _, ⟨hcurrent, hparent⟩, _, hstream, _, -, _, -, _, hreserved, -⟩ := h
  exact ⟨hnonempty, hcurrent, hparent, hstream, hreserved⟩

theorem validateRelativeArchivePath_ok {input : Text} {path : ValidatedArchivePath}
    (h : validateRelativeArchivePath input = .ok path) :
    path = ⟨forwardSlashes input⟩ ∧ SafePath path.value := by
  simp only [validateRelativeArchivePath, bind_eq_ok, require_eq_ok, bne_iff_ne, forM_eq_ok,
    pure_eq_ok, join_components, Bool.not_eq_true'] at h
  obtain ⟨_, -, _, -, _, -, _, hrelative, _, hdrive, _, hcomponents, rfl⟩ := h
  exact ⟨rfl, hrelative, hdrive, fun component hmem =>
    validateComponent_safe (hcomponents component hmem)⟩

namespace ArchiveEntry

/-- The path an accepted entry gets. -/
def validated (entry : ArchiveEntry) : ValidatedArchivePath := ⟨forwardSlashes entry.candidate⟩

/-- The name under which an entry is compared with the others. -/
def folded (entry : ArchiveEntry) : Text := toAsciiLowercase entry.validated.value

/-- What is asked of one entry alone. -/
structure Valid (policy : ArchivePolicy) (entry : ArchiveEntry) : Prop where
  kind : entry.kind = .file ∨ entry.kind = .directory
  size : entry.uncompressedSize ≤ policy.maxSingleFileBytes
  path : validateRelativeArchivePath entry.candidate = .ok entry.validated

end ArchiveEntry

/-! ## One pass over the entries -/

/-- `a` is a file and `b` lies below it. -/
def FileAbove (a b : ArchiveEntry) : Prop := a.kind = .file ∧ IsAncestor a.folded b.folded

instance (a b : ArchiveEntry) : Decidable (FileAbove a b) :=
  inferInstanceAs (Decidable (_ ∧ _))

/-- The checks whose outcome does not depend on the order of the entries. -/
structure Admissible (policy : ArchivePolicy) (entries : List ArchiveEntry) : Prop where
  valid : ∀ entry ∈ entries, entry.Valid policy
  total : (entries.map ArchiveEntry.uncompressedSize).sum ≤ min policy.maxUncompressedBytes u64Max
  distinct : (entries.map ArchiveEntry.folded).Nodup

/-- What the pass holds after the entries. -/
structure Preflight.After (entries : List ArchiveEntry) (state : Preflight) : Prop where
  seen : ∀ name, name ∈ state.seen ↔ name ∈ entries.map ArchiveEntry.folded
  kinds : ∀ name, state.kinds.lookup name = some .file ↔
    ∃ entry ∈ entries, entry.kind = .file ∧ entry.folded = name
  total : state.total = (entries.map ArchiveEntry.uncompressedSize).sum
  validated : state.validated = entries.map ArchiveEntry.validated

variable {policy : ArchivePolicy}

theorem checkEntry_ok {state state' : Preflight} {entry : ArchiveEntry} :
    checkEntry policy state entry = .ok state' ↔
      entry.Valid policy ∧
      state.total + entry.uncompressedSize ≤ min policy.maxUncompressedBytes u64Max ∧
      entry.folded ∉ state.seen ∧
      (∀ parent, IsAncestor parent entry.folded → state.kinds.lookup parent ≠ some .file) ∧
      state' = { seen := entry.folded :: state.seen
                 kinds := state.kinds.insert entry.folded entry.kind
                 total := state.total + entry.uncompressedSize
                 validated := state.validated ++ [entry.validated] } := by
  simp only [checkEntry, bind_eq_ok, require_eq_ok, Bool.or_eq_true, beq_iff_eq,
    decide_eq_true_eq, mapError_eq_ok, Bool.not_eq_true', List.contains_eq_mem,
    decide_eq_false_iff_not, forM_eq_ok, bne_iff_ne, pure_eq_ok, mem_parents, Nat.le_min]
  constructor
  · intro h
    obtain ⟨_, hkind, _, hsize, _, hword, _, htotal, path, hpath, _, hseen, _, hparents, hstate⟩ :=
      h
    obtain rfl : path = entry.validated := (validateRelativeArchivePath_ok hpath).1
    exact ⟨⟨hkind, hsize, hpath⟩, ⟨htotal, hword⟩, hseen, hparents, hstate.symm⟩
  · intro h
    obtain ⟨hvalid, ⟨htotal, hword⟩, hseen, hparents, hstate⟩ := h
    exact ⟨(), hvalid.kind, (), hvalid.size, (), hword, (), htotal, entry.validated, hvalid.path,
      (), hseen, (), hparents, hstate.symm⟩

variable {entries : List ArchiveEntry}

theorem admissible_concat {entry : ArchiveEntry} :
    Admissible policy (entries ++ [entry]) ↔
      Admissible policy entries ∧ entry.Valid policy ∧
      (entries.map ArchiveEntry.uncompressedSize).sum + entry.uncompressedSize ≤
        min policy.maxUncompressedBytes u64Max ∧
      entry.folded ∉ entries.map ArchiveEntry.folded := by
  have hsum : ((entries ++ [entry]).map ArchiveEntry.uncompressedSize).sum =
      (entries.map ArchiveEntry.uncompressedSize).sum + entry.uncompressedSize := by simp
  have hnodup : ((entries ++ [entry]).map ArchiveEntry.folded).Nodup ↔
      (entries.map ArchiveEntry.folded).Nodup ∧
        entry.folded ∉ entries.map ArchiveEntry.folded := by
    rw [List.map_append, List.map_singleton, List.nodup_append]
    simp
  constructor
  · intro h
    obtain ⟨hvalid, htotal, hdistinct⟩ := h
    rw [forall_mem_concat] at hvalid
    rw [hsum] at htotal
    rw [hnodup] at hdistinct
    exact ⟨⟨hvalid.1, Nat.le_trans (Nat.le_add_right _ _) htotal, hdistinct.1⟩, hvalid.2, htotal,
      hdistinct.2⟩
  · intro h
    obtain ⟨⟨hvalid, -, hdistinct⟩, hentry, htotal, hfresh⟩ := h
    exact ⟨forall_mem_concat.2 ⟨hvalid, hentry⟩, hsum ▸ htotal, hnodup.2 ⟨hdistinct, hfresh⟩⟩

namespace Preflight.After

variable {policy : ArchivePolicy} {entries : List ArchiveEntry} {entry : ArchiveEntry}
  {state : Preflight}

theorem nil : After [] {} := ⟨by simp, by simp, rfl, rfl⟩

theorem concat (h : After entries state) (hfresh : entry.folded ∉ state.seen) :
    After (entries ++ [entry]) { seen := entry.folded :: state.seen
                                 kinds := state.kinds.insert entry.folded entry.kind
                                 total := state.total + entry.uncompressedSize
                                 validated := state.validated ++ [entry.validated] } := by
  refine ⟨?_, ?_, ?_, ?_⟩
  · intro name
    simp only [List.mem_cons, h.seen, List.map_append, List.map_singleton, List.mem_append,
      List.not_mem_nil, or_false]
    exact Or.comm
  · intro name
    rw [Table.lookup_insert_eq]
    split_ifs with hname
    · subst hname
      constructor
      · intro hkind
        exact ⟨entry, by simp, Option.some.inj hkind, rfl⟩
      · intro hfile
        obtain ⟨other, hother, hkind, hfolded⟩ := hfile
        rcases List.mem_append.1 hother with hold | hnew
        · exact absurd ((h.seen _).2 (List.mem_map.2 ⟨other, hold, hfolded⟩)) hfresh
        · rw [← List.mem_singleton.1 hnew, hkind]
    · rw [h.kinds]
      constructor
      · intro hfile
        obtain ⟨other, hother, hfile⟩ := hfile
        exact ⟨other, List.mem_append_left _ hother, hfile⟩
      · intro hfile
        obtain ⟨other, hother, hkind, hfolded⟩ := hfile
        rcases List.mem_append.1 hother with hold | hnew
        · exact ⟨other, hold, hkind, hfolded⟩
        · rw [List.mem_singleton.1 hnew] at hfolded
          exact absurd hfolded.symm hname
  · simp [h.total]
  · simp [h.validated]

/-- The next entry passes when it keeps the list admissible and lies below no file before it. -/
theorem checkEntry_iff (h : After entries state) (hok : Admissible policy entries) :
    (∃ state', checkEntry policy state entry = .ok state') ↔
      Admissible policy (entries ++ [entry]) ∧ ∀ before ∈ entries, ¬FileAbove before entry := by
  have hparents : (∀ parent, IsAncestor parent entry.folded →
      state.kinds.lookup parent ≠ some .file) ↔ ∀ before ∈ entries, ¬FileAbove before entry := by
    constructor
    · intro hnone before hbefore habove
      exact hnone before.folded habove.2 ((h.kinds _).2 ⟨before, hbefore, habove.1, rfl⟩)
    · intro hnone parent hparent hfile
      obtain ⟨before, hbefore, hkind, rfl⟩ := (h.kinds parent).1 hfile
      exact hnone before hbefore ⟨hkind, hparent⟩
  simp only [checkEntry_ok, hparents, admissible_concat, h.total, h.seen]
  constructor
  · intro hpass
    obtain ⟨_, hvalid, htotal, hfresh, hnone, -⟩ := hpass
    exact ⟨⟨hok, hvalid, htotal, hfresh⟩, hnone⟩
  · intro hpass
    obtain ⟨⟨-, hvalid, htotal, hfresh⟩, hnone⟩ := hpass
    exact ⟨_, hvalid, htotal, hfresh, hnone, rfl⟩

end Preflight.After

/-- The pass, by induction on the entries from the last one. -/
theorem foldlM_checkEntry (policy : ArchivePolicy) (entries : List ArchiveEntry) :
    (∀ state, entries.foldlM (checkEntry policy) {} = .ok state →
      Preflight.After entries state) ∧
    ((∃ state, entries.foldlM (checkEntry policy) {} = .ok state) ↔
      Admissible policy entries ∧ entries.Pairwise fun a b => ¬FileAbove a b) := by
  induction entries using List.reverseRecOn with
  | nil =>
    refine ⟨?_, iff_of_true ⟨{}, rfl⟩ ⟨⟨by simp, by simp, .nil⟩, .nil⟩⟩
    intro state h
    cases h
    exact .nil
  | append_singleton entries entry ih =>
    obtain ⟨hafter, hiff⟩ := ih
    have hfold : ∀ state, (entries ++ [entry]).foldlM (checkEntry policy) {} = .ok state ↔
        ∃ before, entries.foldlM (checkEntry policy) {} = .ok before ∧
          checkEntry policy before entry = .ok state := by
      intro state
      rw [List.foldlM_append, bind_eq_ok]
      simp [List.foldlM]
    constructor
    · intro state h
      obtain ⟨before, hbefore, hcheck⟩ := (hfold state).1 h
      obtain ⟨-, -, hfresh, -, rfl⟩ := checkEntry_ok.1 hcheck
      exact (hafter before hbefore).concat hfresh
    · rw [pairwise_concat]
      constructor
      · intro h
        obtain ⟨state, hstate⟩ := h
        obtain ⟨before, hbefore, hcheck⟩ := (hfold state).1 hstate
        obtain ⟨hok, hpairs⟩ := hiff.1 ⟨before, hbefore⟩
        obtain ⟨hok', hnone⟩ := ((hafter before hbefore).checkEntry_iff hok).1 ⟨state, hcheck⟩
        exact ⟨hok', hpairs, hnone⟩
      · intro h
        obtain ⟨hok', hpairs, hnone⟩ := h
        have hok := (admissible_concat.1 hok').1
        obtain ⟨before, hbefore⟩ := hiff.2 ⟨hok, hpairs⟩
        obtain ⟨state, hcheck⟩ := ((hafter before hbefore).checkEntry_iff hok).2 ⟨hok', hnone⟩
        exact ⟨state, (hfold state).2 ⟨before, hbefore, hcheck⟩⟩

/-! ## What the preflight promises -/

def Accepts (policy : ArchivePolicy) (entries : List ArchiveEntry) : Prop :=
  ∃ paths, validateArchiveEntries entries policy = .ok paths

theorem accepts_iff :
    Accepts policy entries ↔ entries.length ≤ policy.maxEntries ∧ Admissible policy entries ∧
      entries.Pairwise fun a b => ¬FileAbove a b := by
  rw [← (foldlM_checkEntry policy entries).2]
  simp only [Accepts, validateArchiveEntries, bind_eq_ok, require_eq_ok, decide_eq_true_eq,
    pure_eq_ok]
  constructor
  · intro h
    obtain ⟨_, _, hlength, state, hstate, -⟩ := h
    exact ⟨hlength, state, hstate⟩
  · intro h
    obtain ⟨hlength, state, hstate⟩ := h
    exact ⟨_, (), hlength, state, hstate, rfl⟩

theorem validateArchiveEntries_ok {paths : List ValidatedArchivePath}
    (h : validateArchiveEntries entries policy = .ok paths) :
    paths = entries.map ArchiveEntry.validated := by
  simp only [validateArchiveEntries, bind_eq_ok, pure_eq_ok] at h
  obtain ⟨_, -, state, hstate, rfl⟩ := h
  exact ((foldlM_checkEntry policy entries).1 state hstate).validated

/-- What the members of an accepted archive promise to the extractor. The paths stand in the order
of the entries. -/
structure Extractable (policy : ArchivePolicy) (entries : List ArchiveEntry)
    (paths : List ValidatedArchivePath) : Prop where
  count : paths.length = entries.length
  distinct : (paths.map fun path => toAsciiLowercase path.value).Nodup
  tree : ∀ (i j : Nat) (entry : ArchiveEntry) (above below : ValidatedArchivePath),
    entries[i]? = some entry → entry.kind = .file → paths[i]? = some above →
    paths[j]? = some below →
    ¬IsAncestor (toAsciiLowercase above.value) (toAsciiLowercase below.value)
  safe : ∀ path ∈ paths, SafePath path.value
  total : (entries.map ArchiveEntry.uncompressedSize).sum ≤ policy.maxUncompressedBytes

/-- The promise of the preflight about a list of entries: what it accepts can be extracted, and it
accepts the list in every order or in none. -/
structure PreflightSound (policy : ArchivePolicy) (entries : List ArchiveEntry) : Prop where
  extractable : ∀ paths, validateArchiveEntries entries policy = .ok paths →
    Extractable policy entries paths
  anyOrder : ∀ entries', entries'.Perm entries → (Accepts policy entries' ↔ Accepts policy entries)

theorem Admissible.perm {entries entries' : List ArchiveEntry} (h : Admissible policy entries)
    (hperm : entries'.Perm entries) : Admissible policy entries' := by
  refine ⟨?_, ?_, ?_⟩
  · intro entry hentry
    exact h.valid entry (hperm.mem_iff.1 hentry)
  · rw [(hperm.map ArchiveEntry.uncompressedSize).sum_eq]
    exact h.total
  · exact (hperm.map ArchiveEntry.folded).nodup_iff.2 h.distinct

/-- The deepest entries first: then no file is met before what lies below it. -/
theorem exists_children_first (entries : List ArchiveEntry) :
    ∃ entries' : List ArchiveEntry, entries'.Perm entries ∧
      entries'.Pairwise fun a b => ¬FileAbove a b := by
  refine ⟨entries.mergeSort fun a b => decide (b.folded.length ≤ a.folded.length),
    List.mergeSort_perm _ _, ?_⟩
  have hsorted : (entries.mergeSort fun a b =>
      decide (b.folded.length ≤ a.folded.length)).Pairwise fun a b =>
      decide (b.folded.length ≤ a.folded.length) = true := by
    apply List.pairwise_mergeSort
    · intro a b c hab hbc
      simp only [decide_eq_true_eq] at *
      omega
    · intro a b
      simp only [Bool.or_eq_true, decide_eq_true_eq]
      omega
  refine hsorted.imp ?_
  intro a b hle habove
  have hlt := habove.2.length_lt
  simp only [decide_eq_true_eq] at hle
  omega

theorem extractable_of_accepts {paths : List ValidatedArchivePath}
    (h : validateArchiveEntries entries policy = .ok paths)
    (htree : ∀ a ∈ entries, ∀ b ∈ entries, ¬FileAbove a b) : Extractable policy entries paths := by
  obtain ⟨-, hok, -⟩ := accepts_iff.1 ⟨paths, h⟩
  obtain rfl := validateArchiveEntries_ok h
  refine ⟨List.length_map _, ?_, ?_, ?_, Nat.le_trans hok.total (Nat.min_le_left _ _)⟩
  · rw [List.map_map]
    exact hok.distinct
  · intro i j entry above below hentry hkind habove hbelow hancestor
    rw [List.getElem?_map, hentry] at habove
    cases habove
    rw [List.getElem?_map] at hbelow
    obtain ⟨other, hother, rfl⟩ := Option.map_eq_some_iff.1 hbelow
    exact htree entry (List.mem_of_getElem? hentry) other (List.mem_of_getElem? hother)
      ⟨hkind, hancestor⟩
  · intro path hpath
    obtain ⟨entry, hentry, rfl⟩ := List.mem_map.1 hpath
    exact (validateRelativeArchivePath_ok (hok.valid entry hentry).path).2

/-- **The preflight and collisions.** What the preflight accepts is free of collisions, and its
answer does not depend on the order of the members, exactly for the lists in which no file lies
above another member, or which another check refuses. -/
theorem preflight_sound_iff (policy : ArchivePolicy) (entries : List ArchiveEntry) :
    PreflightSound policy entries ↔
      (entries.length ≤ policy.maxEntries → Admissible policy entries →
        ∀ a ∈ entries, ∀ b ∈ entries, ¬FileAbove a b) := by
  constructor
  · intro h hlength hok a ha b hb habove
    obtain ⟨entries', hperm, hpairs⟩ := exists_children_first entries
    have haccepted : Accepts policy entries' :=
      accepts_iff.2 ⟨hperm.length_eq ▸ hlength, hok.perm hperm, hpairs⟩
    obtain ⟨paths, hpaths⟩ := (h.anyOrder entries' hperm).1 haccepted
    have htree := (h.extractable paths hpaths).tree
    obtain rfl := validateArchiveEntries_ok hpaths
    obtain ⟨i, hi⟩ := List.getElem?_of_mem ha
    obtain ⟨j, hj⟩ := List.getElem?_of_mem hb
    exact htree i j a a.validated b.validated hi habove.1 (by simp [hi]) (by simp [hj]) habove.2
  · intro h
    have horder : ∀ entries', entries'.Perm entries →
        Accepts policy entries' → Accepts policy entries := by
      intro entries' hperm haccepted
      obtain ⟨hlength, hok, -⟩ := accepts_iff.1 haccepted
      have hlength' := hperm.length_eq ▸ hlength
      have hok' := hok.perm hperm.symm
      exact accepts_iff.2 ⟨hlength', hok', List.pairwise_of_forall_mem_list (h hlength' hok')⟩
    refine ⟨?_, ?_⟩
    · intro paths hpaths
      obtain ⟨hlength, hok, -⟩ := accepts_iff.1 ⟨paths, hpaths⟩
      exact extractable_of_accepts hpaths (h hlength hok)
    · intro entries' hperm
      refine ⟨horder entries' hperm, ?_⟩
      intro haccepted
      obtain ⟨hlength, hok, -⟩ := accepts_iff.1 haccepted
      have htree := h hlength hok
      refine accepts_iff.2 ⟨hperm.length_eq ▸ hlength, hok.perm hperm,
        List.pairwise_of_forall_mem_list ?_⟩
      intro a ha b hb
      exact htree a (hperm.mem_iff.1 ha) b (hperm.mem_iff.1 hb)

/-- The file `a` behind its own child: the pass compares it with nothing below it. -/
theorem file_behind_its_child :
    ¬ ∀ (policy : ArchivePolicy) (entries : List ArchiveEntry), PreflightSound policy entries := by
  intro h
  have hsound := h {} [⟨['a', '/', 'b'], .file, 1⟩, ⟨['a'], .file, 1⟩]
  have haccepted : validateArchiveEntries [⟨['a', '/', 'b'], .file, 1⟩, ⟨['a'], .file, 1⟩] {} =
      .ok [⟨['a', '/', 'b']⟩, ⟨['a']⟩] := by rfl
  have htree := (hsound.extractable _ haccepted).tree
  exact htree 1 0 ⟨['a'], .file, 1⟩ ⟨['a']⟩ ⟨['a', '/', 'b']⟩ rfl rfl rfl rfl (by decide)

end NpcRuntime.Packs
