import NpcRuntime.Lib.Decimal
import NpcRuntime.Packs.Archive
import NpcRuntime.Packs.FilesystemStorage

/-!
# Identities as names on the disk

`FilesystemPackStorage` puts the two parts of a parsed identity into paths as they are. Three
grammars meet there: the parsers of `model-manager/src/manifest.rs`, the token check on the
transaction id and the Windows rule of `validate_relative_archive_path`.

The parsers let through a revision with a trailing dot, with a plus sign or with the name of a
device, and pack ids with such a name; and they keep revisions apart that differ only in the case
of their letters. These are all the gaps (`storage_names_sound_iff`).
-/

namespace NpcRuntime.Packs

open Text NpcRuntime.Path

/-! ## Characters of names -/

/-- The characters of a revision, which a pack id shares. -/
def isNameChar (c : Char) : Bool :=
  c.isAlphanum || c == '.' || c == '-' || c == '_' || c == '+'

theorem nameChar_lt {c : Char} (h : isNameChar c) : c.toNat < 128 := by
  simp only [isNameChar, Bool.or_eq_true, beq_iff_eq] at h
  rcases h with (((h | rfl) | rfl) | rfl) | rfl
  · change ((decide (c.val ≥ 'A'.val ∧ c.val ≤ 'Z'.val) ||
      (c.val ≥ 'a'.val && c.val ≤ 'z'.val)) ||
      (c.val ≥ '0'.val && c.val ≤ '9'.val)) = true at h
    simp only [Bool.or_eq_true, Bool.and_eq_true, decide_eq_true_eq, UInt32.le_iff_toNat_le,
      ge_iff_le] at h
    have hval : c.toNat = c.val.toNat := rfl
    have hupper : 'Z'.val.toNat = 90 := rfl
    have hlower : 'z'.val.toNat = 122 := rfl
    have hdigit : '9'.val.toNat = 57 := rfl
    omega
  all_goals decide

/-- What no rule about paths minds. -/
structure Unobjectionable (c : Char) : Prop where
  size : c.utf8Size = 1
  control : isControl c = false
  slash : c ≠ '/'
  backslash : c ≠ '\\'
  colon : c ≠ ':'
  space : c ≠ ' '
  windows : c ∉ ['<', '>', '"', '|', '?', '*']
  folded : c.toLower ≠ '/'

theorem nameChar_unobjectionable {c : Char} (h : isNameChar c) : Unobjectionable c := by
  have hall : ∀ n, n < 128 → isNameChar (Char.ofNat n) →
      (Char.ofNat n).utf8Size = 1 ∧ isControl (Char.ofNat n) = false ∧ Char.ofNat n ≠ '/' ∧
        Char.ofNat n ≠ '\\' ∧ Char.ofNat n ≠ ':' ∧ Char.ofNat n ≠ ' ' ∧
        Char.ofNat n ∉ ['<', '>', '"', '|', '?', '*'] ∧ (Char.ofNat n).toLower ≠ '/' := by
    decide +kernel
  have hchar := hall c.toNat (nameChar_lt h)
  rw [Char.ofNat_toNat] at hchar
  obtain ⟨h1, h2, h3, h4, h5, h6, h7, h8⟩ := hchar h
  exact ⟨h1, h2, h3, h4, h5, h6, h7, h8⟩

/-- The letters of a pack id are small. -/
theorem packIdChar_toLower {c : Char} (h : isNameChar c)
    (hlower : c.isLower || c.isDigit || c == '-' || c == '.') : c.toLower = c := by
  have hall : ∀ n, n < 128 →
      ((Char.ofNat n).isLower || (Char.ofNat n).isDigit || Char.ofNat n == '-' ||
        Char.ofNat n == '.') → (Char.ofNat n).toLower = Char.ofNat n := by
    decide +kernel
  have hchar := hall c.toNat (nameChar_lt h)
  rw [Char.ofNat_toNat] at hchar
  exact hchar hlower

theorem utf8Len_of_nameChars {name : Text} (h : ∀ c ∈ name, isNameChar c) :
    utf8Len name = name.length := by
  induction name with
  | nil => rfl
  | cons c name ih =>
    rw [utf8Len_cons, (nameChar_unobjectionable (h c List.mem_cons_self)).size, List.length_cons,
      ih fun d hd => h d (List.mem_cons_of_mem c hd), Nat.add_comm]

/-! ## The Windows rule -/

/-- A name as a single component of a path. -/
structure IsComponentName (name : Text) : Prop where
  nonempty : name ≠ []
  length : name.length ≤ 128
  chars : ∀ c ∈ name, isNameChar c
  current : name ≠ ['.']
  parent : name ≠ ['.', '.']

/-- `validate_relative_archive_path` takes the name as one component. -/
def AcceptedComponent (name : Text) : Prop :=
  validateRelativeArchivePath name = .ok ⟨name⟩ ∧ components name = [name]

/-- The component rule has two objections left. -/
theorem validateComponent_name_iff {name : Text} (h : IsComponentName name) :
    validateComponent name = .ok () ↔
      name.getLast? ≠ some '.' ∧ deviceBase name ∉ windowsReserved := by
  have hcolon : ':' ∉ name := fun hmem => (nameChar_unobjectionable (h.chars _ hmem)).colon rfl
  have hlength : utf8Len name ≤ 255 := by
    rw [utf8Len_of_nameChars h.chars]
    exact h.length.trans (by decide)
  have hlast : (name.getLast?.any fun c => c == ' ' || c == '.') = false ↔
      name.getLast? ≠ some '.' := by
    cases hget : name.getLast? with
    | none => simp
    | some c =>
      have hspace := (nameChar_unobjectionable (h.chars c (List.mem_of_getLast? hget))).space
      simp [hspace]
  have hwindows : ∀ c ∈ name, c ∉ ['<', '>', '"', '|', '?', '*'] := fun c hmem =>
    (nameChar_unobjectionable (h.chars c hmem)).windows
  simp only [validateComponent, bind_eq_ok, require_eq_ok, bne_iff_ne, ne_eq, Bool.and_eq_true,
    Bool.not_eq_true', List.contains_eq_mem, decide_eq_false_iff_not, decide_eq_true_eq,
    hlast, hcolon, hlength, h.nonempty, h.current, h.parent, List.any_eq_false]
  simpa using fun _ _ c hmem => by simpa using hwindows c hmem

/-- **What the Windows rule minds in a name.** A dot at its end and the name of a device. -/
theorem acceptedComponent_iff {name : Text} (h : IsComponentName name) :
    AcceptedComponent name ↔
      name.getLast? ≠ some '.' ∧ deviceBase name ∉ windowsReserved := by
  have hslash : '/' ∉ name := fun hmem => (nameChar_unobjectionable (h.chars _ hmem)).slash rfl
  have hsingle : components name = [name] := List.splitOn_eq_singleton hslash
  have hjoin : join [name] = name := hsingle ▸ join_components name
  have hlength : utf8Len name ≤ 1024 := by
    rw [utf8Len_of_nameChars h.chars]
    exact h.length.trans (by decide)
  have hcontrol : name.any isControl = false := by
    rw [List.any_eq_false]
    intro c hmem
    rw [(nameChar_unobjectionable (h.chars c hmem)).control]
    exact Bool.false_ne_true
  have hforward : forwardSlashes name = name := by
    refine (List.map_congr_left fun c hmem => ?_).trans (List.map_id name)
    rw [if_neg (nameChar_unobjectionable (h.chars c hmem)).backslash, id]
  have hhead : name.head? ≠ some '/' := fun hhead => hslash (List.mem_of_head? hhead)
  have hdrive : hasDrivePrefix name = false := by
    unfold hasDrivePrefix
    split
    · next c rest =>
      exact absurd rfl (nameChar_unobjectionable (h.chars ':' (by simp))).colon
    · rfl
  rw [← validateComponent_name_iff h, AcceptedComponent, validateRelativeArchivePath]
  simp only [hforward, hsingle, bind_eq_ok, require_eq_ok, pure_eq_ok, forM_eq_ok, hjoin,
    bne_iff_ne, ne_eq, h.nonempty, not_false_eq_true, hlength, hcontrol, hhead, hdrive,
    Bool.not_false, decide_true, List.mem_singleton, forall_eq]
  simp

/-! ## Identities -/

theorem packId_name {value : Text} (h : PackId.parse value = .ok ⟨value⟩) :
    IsComponentName value ∧ value.getLast? ≠ some '.' ∧ toAsciiLowercase value = value ∧
      '+' ∉ value ∧ value.length ≤ 96 := by
  unfold PackId.parse at h
  split_ifs at h with hparse
  obtain ⟨hmin, hmax, hall, hfirst, hlast, -⟩ := hparse
  rw [List.all_eq_true] at hall
  have hchars : ∀ c ∈ value, isNameChar c := by
    intro c hmem
    have hc := hall c hmem
    simp only [Bool.or_eq_true, beq_iff_eq] at hc
    rcases hc with ((hlower | hdigit) | rfl) | rfl
    · have halpha : c.isAlpha = true := by
        show (c.isUpper || c.isLower) = true
        rw [hlower, Bool.or_true]
      simp [isNameChar, Char.isAlphanum, halpha]
    · simp [isNameChar, Char.isAlphanum, hdigit]
    · rfl
    · rfl
  rw [utf8Len_of_nameChars hchars] at hmin hmax
  have hdot : value.getLast? ≠ some '.' := by
    intro hget
    rw [hget] at hlast
    cases hlast
  have hlower : toAsciiLowercase value = value := by
    refine (List.map_congr_left fun c hmem => ?_).trans (List.map_id value)
    exact packIdChar_toLower (hchars c hmem) (hall c hmem)
  refine ⟨⟨?_, by omega, hchars, ?_, ?_⟩, hdot, hlower, ?_, hmax⟩
  · rintro rfl
    simp at hmin
  · rintro rfl
    simp at hmin
  · rintro rfl
    simp at hmin
  · intro hmem
    have hplus := hall '+' hmem
    cases hplus

theorem revision_name {value : Text} (h : Revision.parse value = .ok ⟨value⟩) :
    IsComponentName value := by
  unfold Revision.parse at h
  split_ifs at h with hparse
  obtain ⟨hmin, hmax, hall, hcurrent, hparent⟩ := hparse
  rw [List.all_eq_true] at hall
  have hchars : ∀ c ∈ value, isNameChar c := hall
  rw [utf8Len_of_nameChars hchars] at hmin hmax
  refine ⟨?_, hmax, hchars, hcurrent, hparent⟩
  rintro rfl
  cases hmin

/-- Both parts come from their parsers. -/
structure PackRevision.Parsed (identity : PackRevision) : Prop where
  packId : PackId.parse identity.packId.value = .ok identity.packId
  revision : Revision.parse identity.revision.value = .ok identity.revision

/-- The transaction id of `FilesystemPackStorage::stage` in that process. -/
def transactionId (identity : PackRevision) (processId counter : Nat) : Text :=
  identity.packId.value ++ '-' :: identity.revision.value ++ '-' ::
    (Nat.toDigits 10 processId ++ '-' :: Nat.toDigits 10 counter)

theorem length_transactionId {identity : PackRevision} {processId counter : Nat}
    (hprocess : processId < 2 ^ 32) (hcounter : counter < 2 ^ 64) :
    (transactionId identity processId counter).length ≤
      identity.packId.value.length + identity.revision.value.length + 33 := by
  have hshort : (Nat.toDigits 10 processId).length ≤ 10 :=
    (Nat.length_toDigits_le_iff (by decide) (by decide)).2 (hprocess.trans (by decide))
  have hlong : (Nat.toDigits 10 counter).length ≤ 20 :=
    (Nat.length_toDigits_le_iff (by decide) (by decide)).2 (hcounter.trans (by decide))
  simp only [transactionId, List.length_append, List.length_cons]
  omega

/-- **What the token check minds in a transaction id.** A plus sign in the revision. -/
theorem transactionId_isToken_iff {identity : PackRevision} (h : identity.Parsed)
    {processId counter : Nat} (hprocess : processId < 2 ^ 32) (hcounter : counter < 2 ^ 64) :
    isToken (transactionId identity processId counter) 1 512 ↔
      '+' ∉ identity.revision.value := by
  obtain ⟨hpack, -, -, hplus, hshort⟩ := packId_name h.packId
  have hrevision := revision_name h.revision
  have hdigits : ∀ n, ∀ c ∈ Nat.toDigits 10 n, isNameChar c := by
    intro n c hmem
    have hdigit := Nat.isDigit_of_mem_toDigits (by decide) (by decide) hmem
    simp [isNameChar, Char.isAlphanum, hdigit]
  have hchars : ∀ c ∈ transactionId identity processId counter, isNameChar c := by
    intro c hmem
    simp only [transactionId, List.mem_append, List.mem_cons] at hmem
    rcases hmem with (hid | rfl | hrev) | rfl | hpid | rfl | hcount
    · exact hpack.chars c hid
    · rfl
    · exact hrevision.chars c hrev
    · rfl
    · exact hdigits _ c hpid
    · rfl
    · exact hdigits _ c hcount
  have hlength : utf8Len (transactionId identity processId counter) ≤ 512 := by
    rw [utf8Len_of_nameChars hchars]
    have hparts : (transactionId identity processId counter).length ≤
        identity.packId.value.length + identity.revision.value.length + 33 :=
      length_transactionId hprocess hcounter
    have hrest := hrevision.length
    omega
  have hpos : 1 ≤ utf8Len (transactionId identity processId counter) := by
    rw [utf8Len_of_nameChars hchars]
    simp only [transactionId, List.length_append, List.length_cons]
    omega
  have hall : ((transactionId identity processId counter).all fun c =>
      c.isAlphanum || c == '.' || c == '-' || c == '_') ↔
        '+' ∉ transactionId identity processId counter := by
    rw [List.all_eq_true]
    constructor
    · intro h hmem
      cases h '+' hmem
    · intro h c hmem
      have hc := hchars c hmem
      have hne : c ≠ '+' := fun heq => h (heq ▸ hmem)
      simpa only [isNameChar, beq_eq_false_iff_ne.2 hne, Bool.or_false] using hc
  have hplusIff : '+' ∈ transactionId identity processId counter ↔
      '+' ∈ identity.revision.value := by
    simp only [transactionId, List.mem_append, List.mem_cons, hplus,
      notMem_toDigits (show '+'.isDigit = false by rfl)]
    simp
  rw [isToken, Bool.and_eq_true, Bool.and_eq_true, decide_eq_true_eq, decide_eq_true_eq, hall,
    hplusIff]
  exact and_iff_right ⟨hpos, hlength⟩

namespace FilesystemPackStorage

def packRoot (root : Text) (packId : PackId) : Text := root ++ "/packs/".toList ++ packId.value

def versionRoot (root : Text) (identity : PackRevision) : Text :=
  packRoot root identity.packId ++ "/versions".toList ++ '/' :: identity.revision.value

/-- Version directories are as far apart as the revisions, without case. -/
theorem versionRoot_folded_iff {a b : PackRevision} (ha : a.Parsed) (hb : b.Parsed) (root : Text) :
    toAsciiLowercase (versionRoot root a) = toAsciiLowercase (versionRoot root b) ↔
      a.packId = b.packId ∧
        toAsciiLowercase a.revision.value = toAsciiLowercase b.revision.value := by
  have hslash : ∀ identity : PackRevision, identity.Parsed →
      '/' ∉ toAsciiLowercase identity.revision.value := by
    intro identity h hmem
    obtain ⟨c, hc, hfold⟩ := List.mem_map.1 hmem
    exact (nameChar_unobjectionable ((revision_name h.revision).chars c hc)).folded hfold
  have hfolded : ∀ identity : PackRevision, identity.Parsed →
      toAsciiLowercase (versionRoot root identity) =
        toAsciiLowercase root ++ "/packs/".toList ++ identity.packId.value ++
          "/versions".toList ++ '/' :: toAsciiLowercase identity.revision.value := by
    intro identity h
    obtain ⟨-, -, hlower, -, -⟩ := packId_name h.packId
    unfold toAsciiLowercase at hlower ⊢
    simp only [versionRoot, packRoot, List.map_append, List.map_cons, hlower]
    rfl
  rw [hfolded a ha, hfolded b hb]
  constructor
  · intro h
    obtain ⟨hfront, hrevision⟩ := append_field_inj (hslash a ha) (hslash b hb) h
    have hpack := List.append_cancel_left (List.append_cancel_right hfront)
    exact ⟨congrArg PackId.mk hpack, hrevision⟩
  · rintro ⟨hpack, hrevision⟩
    rw [hpack, hrevision]

end FilesystemPackStorage

open FilesystemPackStorage

/-! ## All three together -/

/-- The names made from one identity are good, and its directory is not that of the other one. -/
structure StorageNamesSound (a b : PackRevision) : Prop where
  packId : AcceptedComponent a.packId.value
  revision : AcceptedComponent a.revision.value
  transaction : ∀ processId < 2 ^ 32, ∀ counter < 2 ^ 64,
    isToken (transactionId a processId counter) 1 512
  apart : ∀ root, a ≠ b →
    toAsciiLowercase (versionRoot root a) ≠ toAsciiLowercase (versionRoot root b)

/-- **Storage names.** Parsed identities make good names exactly if neither part has the name of a
device, the revision holds no plus sign and does not end in a dot, and the other revision of the
pack differs in more than case. -/
theorem storage_names_sound_iff {a b : PackRevision} (ha : a.Parsed) (hb : b.Parsed) :
    StorageNamesSound a b ↔
      deviceBase a.packId.value ∉ windowsReserved ∧
        (a.revision.value.getLast? ≠ some '.' ∧
          deviceBase a.revision.value ∉ windowsReserved) ∧
        '+' ∉ a.revision.value ∧
        (a.packId = b.packId →
          toAsciiLowercase a.revision.value = toAsciiLowercase b.revision.value → a = b) := by
  obtain ⟨hname, hdot, -⟩ := packId_name ha.packId
  have hpack : AcceptedComponent a.packId.value ↔ deviceBase a.packId.value ∉ windowsReserved :=
    (acceptedComponent_iff hname).trans (and_iff_right hdot)
  have hrevision := acceptedComponent_iff (revision_name ha.revision)
  have htoken : (∀ processId < 2 ^ 32, ∀ counter < 2 ^ 64,
      isToken (transactionId a processId counter) 1 512) ↔ '+' ∉ a.revision.value := by
    constructor
    · intro h
      exact (transactionId_isToken_iff ha (by decide) (by decide)).1
        (h 0 (by decide) 0 (by decide))
    · intro h processId hprocess counter hcounter
      exact (transactionId_isToken_iff ha hprocess hcounter).2 h
  have hapart : (∀ root, a ≠ b →
      toAsciiLowercase (versionRoot root a) ≠ toAsciiLowercase (versionRoot root b)) ↔
        (a.packId = b.packId →
          toAsciiLowercase a.revision.value = toAsciiLowercase b.revision.value → a = b) := by
    constructor
    · intro h hsame hfold
      by_contra hne
      exact h [] hne ((versionRoot_folded_iff ha hb []).2 ⟨hsame, hfold⟩)
    · intro h root hne hfold
      obtain ⟨hsame, hrevisions⟩ := (versionRoot_folded_iff ha hb root).1 hfold
      exact hne (h hsame hrevisions)
  rw [← hpack, ← hrevision, ← htoken, ← hapart]
  constructor
  · intro h
    exact ⟨h.packId, h.revision, h.transaction, h.apart⟩
  · rintro ⟨h₁, h₂, h₃, h₄⟩
    exact ⟨h₁, h₂, h₃, h₄⟩

/-- A pack in that revision. -/
def visemePack (revision : String) : PackRevision :=
  ⟨⟨"npc.visemes".toList⟩, ⟨revision.toList⟩⟩

/-- Two releases have good names. -/
theorem storage_names_sound_iff_releases :
    (visemePack "1.0.0").Parsed ∧ (visemePack "1.1.0").Parsed ∧
      StorageNamesSound (visemePack "1.0.0") (visemePack "1.1.0") := by
  have hfirst : (visemePack "1.0.0").Parsed := ⟨by decide +kernel, by decide +kernel⟩
  have hsecond : (visemePack "1.1.0").Parsed := ⟨by decide +kernel, by decide +kernel⟩
  exact ⟨hfirst, hsecond, (storage_names_sound_iff hfirst hsecond).2 (by decide +kernel)⟩

/-- A revision with build metadata parses, and its transaction id is refused. -/
theorem build_metadata_unstageable :
    ¬ ∀ a b : PackRevision, a.Parsed → b.Parsed → StorageNamesSound a b := by
  intro h
  have hparsed : (visemePack "1.0.0+cuda").Parsed := ⟨by decide +kernel, by decide +kernel⟩
  have hsound := h _ (visemePack "1.0.0+cuda") hparsed hparsed
  have htoken := hsound.transaction 0 (by decide) 0 (by decide)
  rw [transactionId_isToken_iff hparsed (by decide) (by decide)] at htoken
  exact htoken (by decide +kernel)

end NpcRuntime.Packs
