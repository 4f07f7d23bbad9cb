import Mathlib.Data.List.Basic
import Mathlib.Data.List.DropRight
import Mathlib.Data.List.TakeDrop
import Mathlib.Algebra.BigOperators.Group.List.Basic
import Mathlib.Algebra.Ring.Nat

/-!
# Text as Rust sees it

A Rust `&str` is a list of Unicode scalar values; offsets into it are UTF-8 byte counts. `Text`
is the list, `utf8Len` the number of bytes it takes, and `slice` is `&s[a..b]`, which panics
(`none`) when the range is reversed, out of bounds or off a character boundary.

Whitespace is Unicode's `White_Space`, the set of `char::is_whitespace` and of `str::trim`.
-/

namespace NpcRuntime

/-- A string as its characters. -/
abbrev Text := List Char

namespace Text

/-- `char::is_whitespace`: the Unicode `White_Space` property. -/
def isWhitespace (c : Char) : Bool :=
  (0x9 ≤ c.toNat && c.toNat ≤ 0xD) || c.toNat == 0x20 || c.toNat == 0x85 || c.toNat == 0xA0 ||
    c.toNat == 0x1680 || (0x2000 ≤ c.toNat && c.toNat ≤ 0x200A) || c.toNat == 0x2028 ||
    c.toNat == 0x2029 || c.toNat == 0x202F || c.toNat == 0x205F || c.toNat == 0x3000

/-- `char::is_control`: the Unicode category `Cc`. -/
def isControl (c : Char) : Bool := c.toNat < 0x20 || (0x7F ≤ c.toNat && c.toNat < 0xA0)

/-- `char::is_ascii_punctuation`. -/
def isAsciiPunctuation (c : Char) : Bool :=
  (0x21 ≤ c.toNat && c.toNat ≤ 0x2F) || (0x3A ≤ c.toNat && c.toNat ≤ 0x40) ||
    (0x5B ≤ c.toNat && c.toNat ≤ 0x60) || (0x7B ≤ c.toNat && c.toNat ≤ 0x7E)

/-- `str::len`: the number of UTF-8 bytes. -/
def utf8Len (t : Text) : Nat := (t.map Char.utf8Size).sum

/-- `str::trim_start`. -/
def trimStart (t : Text) : Text := t.dropWhile isWhitespace

/-- `str::trim_end`. -/
def trimEnd (t : Text) : Text := t.rdropWhile isWhitespace

/-- `str::trim`. -/
def trim (t : Text) : Text := trimEnd (trimStart t)

/-- `s.trim().is_empty()`. -/
def isBlank (t : Text) : Bool := t.all isWhitespace

/-- Split at a byte offset: the characters before it and after it, when it is a character
boundary of the text. -/
def splitAtByte : Text → Nat → Option (Text × Text)
  | t, 0 => some ([], t)
  | [], _ + 1 => none
  | c :: t, n + 1 =>
    if c.utf8Size ≤ n + 1 then (splitAtByte t (n + 1 - c.utf8Size)).map fun p => (c :: p.1, p.2)
    else none

/-- `&s[a..b]`; `none` where Rust panics. -/
def slice (t : Text) (a b : Nat) : Option Text :=
  if a ≤ b then (splitAtByte t a).bind fun p => (splitAtByte p.2 (b - a)).map Prod.fst else none

/-! ## Bytes -/

@[simp] theorem utf8Len_nil : utf8Len [] = 0 := rfl

@[simp] theorem utf8Len_cons (c : Char) (t : Text) : utf8Len (c :: t) = c.utf8Size + utf8Len t := by
  simp [utf8Len]

@[simp] theorem utf8Len_append (a b : Text) : utf8Len (a ++ b) = utf8Len a + utf8Len b := by
  simp [utf8Len]

theorem utf8Len_replicate (n : Nat) (c : Char) :
    utf8Len (List.replicate n c) = n * c.utf8Size := by
  induction n with
  | zero => simp
  | succ n ih => rw [List.replicate_succ, utf8Len_cons, ih, Nat.succ_mul, Nat.add_comm]

variable {t : Text}

theorem utf8Len_pos (h : t ≠ []) : 0 < utf8Len t := by
  obtain ⟨c, t, rfl⟩ := List.exists_cons_of_ne_nil h
  have := c.utf8Size_pos
  rw [utf8Len_cons]
  omega

theorem utf8Len_take_le (t : Text) (n : Nat) : utf8Len (t.take n) ≤ utf8Len t := by
  conv_rhs => rw [← List.take_append_drop n t]
  rw [utf8Len_append]
  omega

variable {n : Nat}

theorem utf8Len_take_lt (h : n < t.length) : utf8Len (t.take n) < utf8Len (t.take (n + 1)) := by
  rw [List.take_succ_eq_append_getElem h, utf8Len_append]
  have := utf8Len_pos (List.cons_ne_nil t[n] [])
  omega

/-- The end of a prefix is a character boundary. -/
theorem splitAtByte_append (a b : Text) : splitAtByte (a ++ b) (utf8Len a) = some (a, b) := by
  induction a with
  | nil => cases b <;> rfl
  | cons c a ih =>
    obtain ⟨n, hn⟩ : ∃ n, utf8Len (c :: a) = n + 1 :=
      Nat.exists_eq_succ_of_ne_zero (utf8Len_pos (List.cons_ne_nil c a)).ne'
    have hsub : n + 1 - c.utf8Size = utf8Len a := by
      rw [← hn, utf8Len_cons]
      omega
    have hle : c.utf8Size ≤ n + 1 := by
      rw [← hn, utf8Len_cons]
      omega
    rw [List.cons_append, hn, splitAtByte, if_pos hle, hsub, ih]
    rfl

/-- A character boundary is the end of a prefix. -/
theorem splitAtByte_eq_some {t a b : Text} :
    splitAtByte t n = some (a, b) ↔ t = a ++ b ∧ utf8Len a = n := by
  constructor
  · intro h
    induction t generalizing n a with
    | nil =>
      cases n with
      | zero =>
        cases h
        exact ⟨rfl, rfl⟩
      | succ n => cases h
    | cons c t ih =>
      cases n with
      | zero =>
        cases h
        exact ⟨rfl, rfl⟩
      | succ n =>
        rw [splitAtByte] at h
        by_cases hsize : c.utf8Size ≤ n + 1
        · rw [if_pos hsize, Option.map_eq_some_iff] at h
          obtain ⟨⟨before, after⟩, hsplit, heq⟩ := h
          cases heq
          obtain ⟨rfl, hlen⟩ := ih hsplit
          refine ⟨rfl, ?_⟩
          rw [utf8Len_cons, hlen]
          omega
        · rw [if_neg hsize] at h
          cases h
  · rintro ⟨rfl, rfl⟩
    exact splitAtByte_append a b

/-- Slicing at the ends of two prefixes. -/
theorem slice_append (a b c : Text) :
    slice (a ++ b ++ c) (utf8Len a) (utf8Len a + utf8Len b) = some b := by
  rw [slice, if_pos (Nat.le_add_right _ _), List.append_assoc, splitAtByte_append, Option.bind_some,
    Nat.add_sub_cancel_left, splitAtByte_append]
  rfl

/-- A slice is a piece of the text. -/
theorem slice_eq_some {t piece : Text} {a b : Nat} :
    slice t a b = some piece ↔ ∃ before after, t = before ++ piece ++ after ∧
      utf8Len before = a ∧ utf8Len before + utf8Len piece = b := by
  constructor
  · intro h
    by_cases hle : a ≤ b
    · rw [slice, if_pos hle, Option.bind_eq_some_iff] at h
      obtain ⟨⟨before, rest⟩, hsplit, hmap⟩ := h
      obtain ⟨⟨p, after⟩, hpiece, rfl⟩ := Option.map_eq_some_iff.1 hmap
      obtain ⟨rfl, rfl⟩ := splitAtByte_eq_some.1 hsplit
      obtain ⟨hrest, hlen⟩ := splitAtByte_eq_some.1 hpiece
      dsimp only at hrest ⊢
      subst hrest
      exact ⟨before, after, (List.append_assoc _ _ _).symm, rfl, by omega⟩
    · rw [slice, if_neg hle] at h
      cases h
  · rintro ⟨before, after, rfl, rfl, rfl⟩
    exact slice_append before piece after

theorem slice_reversed {a b : Nat} (h : b < a) : slice t a b = none := by
  rw [slice, if_neg (not_le.2 h)]

/-! ## Blanks -/

theorem isBlank_iff : isBlank t = true ↔ ∀ c ∈ t, isWhitespace c = true := by
  simp [isBlank]

@[simp] theorem isBlank_append (a b : Text) : isBlank (a ++ b) = (isBlank a && isBlank b) := by
  simp [isBlank]

/-- The text starts and ends with a character that is no whitespace. -/
structure Trimmed (t : Text) : Prop where
  first : ∃ c rest, t = c :: rest ∧ isWhitespace c = false
  last : ∃ c rest, t = rest ++ [c] ∧ isWhitespace c = false

theorem Trimmed.ne_nil (h : Trimmed t) : t ≠ [] := by
  obtain ⟨c, rest, rfl, -⟩ := h.first
  exact List.cons_ne_nil c rest

theorem trimStart_append {lead rest : Text} (hlead : isBlank lead = true)
    (hrest : ∃ c t, rest = c :: t ∧ isWhitespace c = false) : trimStart (lead ++ rest) = rest := by
  obtain ⟨c, t, rfl, hc⟩ := hrest
  rw [trimStart, List.dropWhile_append_of_pos (isBlank_iff.1 hlead), List.dropWhile_cons_of_neg]
  simp [hc]

theorem trimEnd_append {trail rest : Text} (htrail : isBlank trail = true)
    (hrest : ∃ c t, rest = t ++ [c] ∧ isWhitespace c = false) : trimEnd (rest ++ trail) = rest := by
  obtain ⟨c, t, rfl, hc⟩ := hrest
  rw [trimEnd, List.rdropWhile, List.reverse_append,
    List.dropWhile_append_of_pos (fun c hc => isBlank_iff.1 htrail c (List.mem_reverse.1 hc)),
    List.reverse_append, List.reverse_singleton, List.singleton_append, List.dropWhile_cons_of_neg]
  · simp
  · simp [hc]

theorem Trimmed.trim_eq (h : Trimmed t) : trim t = t := by
  have hstart : trimStart ([] ++ t) = t := trimStart_append rfl h.first
  have hend : trimEnd (t ++ []) = t := trimEnd_append rfl h.last
  rw [List.nil_append] at hstart
  rw [List.append_nil] at hend
  rw [trim, hstart, hend]

theorem utf8Len_trim_le (t : Text) : utf8Len (trim t) ≤ utf8Len t := by
  obtain ⟨lead, hlead⟩ := List.dropWhile_suffix (l := t) isWhitespace
  obtain ⟨trail, htrail⟩ := List.rdropWhile_prefix isWhitespace (trimStart t)
  have hsplit : t = lead ++ (trim t ++ trail) := by
    rw [trim, trimEnd, htrail, trimStart, hlead]
  conv_rhs => rw [hsplit]
  simp only [utf8Len_append]
  omega

/-- A text that is not blank is a trimmed text between two blanks. -/
theorem exists_trimmed (h : isBlank t = false) :
    ∃ lead core trail, t = lead ++ core ++ trail ∧ isBlank lead = true ∧ Trimmed core ∧
      isBlank trail = true := by
  have hstart : t.dropWhile isWhitespace ≠ [] := by
    intro hnil
    rw [List.dropWhile_eq_nil_iff] at hnil
    rw [isBlank_iff.2 hnil] at h
    cases h
  obtain ⟨c, rest, hrest⟩ := List.exists_cons_of_ne_nil hstart
  have hc : isWhitespace c = false := by
    have hhead := List.head_dropWhile_not isWhitespace hstart
    simpa [hrest] using hhead
  have hend : (c :: rest).rdropWhile isWhitespace ≠ [] := by
    rw [Ne, List.rdropWhile_eq_nil_iff]
    intro hall
    rw [hall c List.mem_cons_self] at hc
    cases hc
  set core := (c :: rest).rdropWhile isWhitespace with hcore
  have hsplit : core ++ (c :: rest).rtakeWhile isWhitespace = c :: rest :=
    List.rdropWhile_append_rtakeWhile
  refine ⟨t.takeWhile isWhitespace, core, (c :: rest).rtakeWhile isWhitespace, ?_, ?_, ⟨?_, ?_⟩, ?_⟩
  · rw [List.append_assoc, hsplit, ← hrest, List.takeWhile_append_dropWhile]
  · exact isBlank_iff.2 fun c hc => List.mem_takeWhile_imp hc
  · obtain ⟨d, core', hd⟩ := List.exists_cons_of_ne_nil hend
    rw [hd, List.cons_append] at hsplit
    exact ⟨d, core', hd, by rw [(List.cons.inj hsplit).1]; exact hc⟩
  · refine ⟨core.getLast hend, core.dropLast, (List.dropLast_append_getLast hend).symm, ?_⟩
    simpa using List.rdropWhile_last_not isWhitespace (c :: rest) hend
  · exact isBlank_iff.2 fun c hc => List.mem_rtakeWhile_imp hc

theorem isBlank_take_iff (h : n ≤ t.length) :
    isBlank (t.take n) = true ↔ n ≤ (t.takeWhile isWhitespace).length := by
  induction t generalizing n with
  | nil => simpa [isBlank] using h
  | cons c t ih =>
    cases n with
    | zero => simp [isBlank]
    | succ n =>
      have htail := ih (Nat.le_of_succ_le_succ h)
      by_cases hc : isWhitespace c = true
      · rw [List.takeWhile_cons_of_pos hc, List.length_cons, Nat.succ_le_succ_iff, ← htail]
        simp [isBlank, hc]
      · rw [List.takeWhile_cons_of_neg hc]
        simp [isBlank, hc]

/-- The characters of the leading whitespace. -/
theorem getElem?_lead {i : Nat} (h : i < (t.takeWhile isWhitespace).length) :
    ∃ c, t[i]? = some c ∧ isWhitespace c = true := by
  have hget : t[i]? = some (t.takeWhile isWhitespace)[i] := by
    conv_lhs => rw [← List.takeWhile_append_dropWhile (p := isWhitespace) (l := t)]
    rw [List.getElem?_append_left h, List.getElem?_eq_getElem h]
  exact ⟨_, hget, List.mem_takeWhile_imp (List.getElem_mem h)⟩

/-! ## The last character of a class -/

/-- The position after the last character of the class. -/
def lastEnd (p : Char → Bool) (t : Text) : Option Nat :=
  let upto := t.rdropWhile fun c => !p c
  if upto = [] then none else some upto.length

section LastEnd

variable {p : Char → Bool} {t : Text}

theorem lastEnd_concat (c : Char) :
    lastEnd p (t ++ [c]) = if p c then some (t.length + 1) else lastEnd p t := by
  simp only [lastEnd]
  rw [List.rdropWhile_concat]
  cases p c <;> simp

theorem lastEnd_bounds {e : Nat} (h : lastEnd p t = some e) : 0 < e ∧ e ≤ t.length := by
  unfold lastEnd at h
  dsimp only at h
  split_ifs at h with hupto
  cases h
  exact ⟨List.length_pos_of_ne_nil hupto, (List.rdropWhile_prefix _ _).length_le⟩

theorem lastEnd_char {e : Nat} (h : lastEnd p t = some e) :
    ∃ c, t[e - 1]? = some c ∧ p c = true := by
  induction t using List.reverseRecOn with
  | nil => cases h
  | append_singleton t c ih =>
    rw [lastEnd_concat] at h
    split_ifs at h with hc
    · cases h
      exact ⟨c, by simp, hc⟩
    · obtain ⟨d, hd, hp⟩ := ih h
      exact ⟨d, by rw [List.getElem?_append_left (List.getElem?_eq_some_iff.1 hd).1, hd], hp⟩

/-- No character of the class stands behind the last one. -/
theorem exists_lastEnd {i : Nat} {c : Char} (hi : t[i]? = some c) (hc : p c = true) :
    ∃ e, lastEnd p t = some e ∧ i < e := by
  induction t using List.reverseRecOn with
  | nil => cases hi
  | append_singleton t d ih =>
    rw [lastEnd_concat]
    have hlt := (List.getElem?_eq_some_iff.1 hi).1
    rw [List.length_append, List.length_singleton] at hlt
    split_ifs with hd
    · exact ⟨_, rfl, hlt⟩
    · have hne : i ≠ t.length := by
        rintro rfl
        rw [List.getElem?_concat_length] at hi
        cases hi
        exact hd hc
      rw [List.getElem?_append_left (by omega)] at hi
      exact ih hi

end LastEnd

end Text

end NpcRuntime
