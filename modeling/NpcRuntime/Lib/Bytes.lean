import Mathlib.Data.List.Basic
import Mathlib.Tactic.Ring

/-!
# Bytes and readers

Little-endian numbers, strings behind their length, and readers that take a value off the front of
a byte string.

A reader has one rule, an equivalence: it returns a value exactly if the bytes begin with the
encoding of the value, and the value is one that it accepts. Read from right to left, the rules of a
record's fields say that what was written is read; from left to right, that nothing else is, so a
format whose readers are written with them is canonical.
-/

namespace NpcRuntime

/-- A byte string. -/
abbrev Bytes := List UInt8

/-! ## Little-endian numbers -/

/-- The lowest `k` bytes of a number, the lowest first. -/
def littleEndian : Nat → Nat → Bytes
  | 0, _ => []
  | k + 1, n => UInt8.ofNat n :: littleEndian k (n / 256)

/-- The number that the bytes stand for, the lowest first. -/
def ofLittleEndian : Bytes → Nat
  | [] => 0
  | b :: bytes => b.toNat + 256 * ofLittleEndian bytes

@[simp] theorem length_littleEndian (k n : Nat) : (littleEndian k n).length = k := by
  induction k generalizing n with
  | zero => rfl
  | succ k ih => rw [littleEndian, List.length_cons, ih]

theorem ofLittleEndian_littleEndian (k n : Nat) :
    ofLittleEndian (littleEndian k n) = n % 256 ^ k := by
  induction k generalizing n with
  | zero => rw [littleEndian, ofLittleEndian, pow_zero, Nat.mod_one]
  | succ k ih =>
    rw [littleEndian, ofLittleEndian, ih, UInt8.toNat_ofNat', pow_succ' 256 k]
    exact Nat.mod_mul.symm

theorem littleEndian_ofLittleEndian (bytes : Bytes) :
    littleEndian bytes.length (ofLittleEndian bytes) = bytes := by
  induction bytes with
  | nil => rfl
  | cons b bytes ih =>
    have hlt : b.toNat < 256 := b.toNat_lt
    have hhead : UInt8.ofNat (b.toNat + 256 * ofLittleEndian bytes) = b := by
      apply UInt8.toNat_inj.1
      rw [UInt8.toNat_ofNat', Nat.add_mul_mod_self_left, Nat.mod_eq_of_lt hlt]
    have htail : (b.toNat + 256 * ofLittleEndian bytes) / 256 = ofLittleEndian bytes := by
      omega
    rw [List.length_cons, ofLittleEndian, littleEndian, hhead, htail, ih]

theorem ofLittleEndian_lt (bytes : Bytes) : ofLittleEndian bytes < 256 ^ bytes.length := by
  induction bytes with
  | nil => exact Nat.one_pos
  | cons b bytes ih =>
    have hlt : b.toNat < 256 := b.toNat_lt
    rw [List.length_cons, ofLittleEndian, pow_succ']
    calc b.toNat + 256 * ofLittleEndian bytes
        < 256 * (ofLittleEndian bytes + 1) := by omega
      _ ≤ 256 * 256 ^ bytes.length := Nat.mul_le_mul_left 256 ih

def u8le (n : UInt8) : Bytes := [n]
def u16le (n : UInt16) : Bytes := littleEndian 2 n.toNat
def u32le (n : UInt32) : Bytes := littleEndian 4 n.toNat
def u64le (n : UInt64) : Bytes := littleEndian 8 n.toNat

@[simp] theorem length_u8le (n : UInt8) : (u8le n).length = 1 := rfl

@[simp] theorem length_u16le (n : UInt16) : (u16le n).length = 2 := length_littleEndian _ _
@[simp] theorem length_u32le (n : UInt32) : (u32le n).length = 4 := length_littleEndian _ _
@[simp] theorem length_u64le (n : UInt64) : (u64le n).length = 8 := length_littleEndian _ _

/-- A byte that is one or zero. -/
def flagByte (flag : Bool) : UInt8 := if flag then 1 else 0

/-- A string behind its length. -/
def stringBytes (s : Bytes) : Bytes := u16le (UInt16.ofNat s.length) ++ s

@[simp] theorem length_stringBytes (s : Bytes) : (stringBytes s).length = 2 + s.length := by
  simp [stringBytes]

/-- The value of a code, looked up among all values. -/
theorem find?_code {α β : Type} [DecidableEq β] {code : α → β} {values : List α}
    (hvalues : ∀ a, (values.find? fun b => code b == code a) = some a) {raw : β} {a : α} :
    (values.find? fun b => code b == raw) = some a ↔ raw = code a := by
  constructor
  · intro h
    have hfound := List.find?_some h
    exact (beq_iff_eq.1 hfound).symm
  · intro h
    subst h
    exact hvalues a

/-! ## Readers -/

/-- A reader takes a value off the front of the bytes, or fails. -/
abbrev Reader (α : Type) := StateT Bytes Option α

namespace Reader

variable {α β : Type} {bytes rest : Bytes}

/-- The value that the reader returns, whatever it leaves. -/
def decode (reader : Reader α) (bytes : Bytes) : Option α := (reader.run bytes).map Prod.fst

variable {reader : Reader α} {a : α}

theorem decode_eq_some :
    decode reader bytes = some a ↔ ∃ rest, reader.run bytes = some (a, rest) := by
  simp [decode]

/-- A decoder whose reader takes all of the bytes and that looks at their number first. -/
theorem guarded_decode_eq_some {accepted refused : Prop} [Decidable refused]
    (hrun : ∀ rest, reader.run bytes = some (a, rest) ↔ accepted ∧ rest = [])
    (hlength : accepted → ¬refused) :
    (if refused then none else decode reader bytes) = some a ↔ accepted := by
  rw [Option.ite_none_left_eq_some, decode_eq_some]
  constructor
  · intro h
    obtain ⟨-, rest, h⟩ := h
    exact ((hrun rest).1 h).1
  · intro h
    exact ⟨hlength h, [], (hrun []).2 ⟨h, rfl⟩⟩

@[simp] theorem run_bind_eq_some {next : α → Reader β} {b : β} :
    (reader >>= next).run bytes = some (b, rest) ↔
      ∃ a mid, reader.run bytes = some (a, mid) ∧ (next a).run mid = some (b, rest) := by
  simp [StateT.run_bind, Option.bind_eq_some_iff]

@[simp] theorem run_pure_eq_some {b : α} :
    (pure a : Reader α).run bytes = some (b, rest) ↔ a = b ∧ bytes = rest := by
  simp [StateT.run_pure]

/-- Goes on if the condition holds. -/
def check (condition : Bool) : Reader Unit := fun bytes =>
  if condition then some ((), bytes) else none

variable {u : Unit}

@[simp] theorem run_check {condition : Bool} :
    (check condition).run bytes = some (u, rest) ↔ condition = true ∧ bytes = rest := by
  cases condition <;> simp [check, StateT.run]

/-- A value that was computed, if there is one. -/
def ofOption (value : Option α) : Reader α := fun bytes => value.map fun a => (a, bytes)

@[simp] theorem run_ofOption {value : Option α} :
    (ofOption value).run bytes = some (a, rest) ↔ value = some a ∧ bytes = rest := by
  cases value <;> simp [ofOption, StateT.run]

/-- A value that is there only if the condition holds. -/
def optional (present : Bool) (reader : Reader α) : Reader (Option α) :=
  if present then some <$> reader else pure none

theorem run_optional {present : Bool} {value : Option α} :
    (optional present reader).run bytes = some (value, rest) ↔
      value.isSome = present ∧ (∀ a, value = some a → reader.run bytes = some (a, rest)) ∧
        (value = none → bytes = rest) := by
  cases present with
  | true =>
    rw [optional, if_pos rfl, map_eq_pure_bind]
    simp only [run_bind_eq_some, run_pure_eq_some]
    constructor
    · intro h
      obtain ⟨a, mid, hrun, rfl, rfl⟩ := h
      refine ⟨rfl, ?_, fun hnone => by cases hnone⟩
      intro a' hvalue
      obtain rfl := Option.some.inj hvalue
      exact hrun
    · intro h
      obtain ⟨hsome, hrun, -⟩ := h
      obtain ⟨a, rfl⟩ := Option.isSome_iff_exists.1 hsome
      exact ⟨a, rest, hrun a rfl, rfl, rfl⟩
  | false =>
    rw [optional, if_neg (by simp), run_pure_eq_some]
    constructor
    · intro h
      obtain ⟨rfl, rfl⟩ := h
      exact ⟨rfl, fun a hvalue => (by cases hvalue), fun _ => rfl⟩
    · intro h
      obtain ⟨hnone, -, hsame⟩ := h
      have hvalue : value = none := by simpa using hnone
      exact ⟨hvalue.symm, hsame hvalue⟩

/-- Nothing is left. -/
def done : Reader Unit := fun bytes => if bytes.isEmpty then some ((), bytes) else none

@[simp] theorem run_done : done.run bytes = some (u, rest) ↔ bytes = [] ∧ rest = [] := by
  cases bytes <;> simp [done, StateT.run, eq_comm]

/-- All that is left. -/
def remaining : Reader Bytes := fun bytes => some (bytes, [])

@[simp] theorem run_remaining {taken : Bytes} :
    remaining.run bytes = some (taken, rest) ↔ bytes = taken ∧ rest = [] := by
  simp [remaining, StateT.run, eq_comm]

/-- The next `n` bytes. -/
def take (n : Nat) : Reader Bytes := fun bytes =>
  if bytes.length < n then none else some (bytes.take n, bytes.drop n)

@[simp] theorem run_take {n : Nat} {taken : Bytes} :
    (take n).run bytes = some (taken, rest) ↔ taken.length = n ∧ bytes = taken ++ rest := by
  show (if bytes.length < n then none else some (bytes.take n, bytes.drop n)) = _ ↔ _
  by_cases hshort : bytes.length < n
  · rw [if_pos hshort]
    refine iff_of_false (by simp) ?_
    intro htaken
    rw [htaken.2, List.length_append, htaken.1] at hshort
    exact absurd hshort (by omega)
  · rw [if_neg hshort, Option.some.injEq, Prod.mk.injEq]
    constructor
    · intro htaken
      obtain ⟨rfl, rfl⟩ := htaken
      exact ⟨List.length_take_of_le (not_lt.1 hshort), (List.take_append_drop n bytes).symm⟩
    · intro htaken
      obtain ⟨rfl, rfl⟩ := htaken
      exact ⟨List.take_left' rfl, List.drop_left' rfl⟩

/-- The given bytes come next. -/
def exact (expected : Bytes) : Reader Unit := do
  let taken ← take expected.length
  check (taken == expected)

@[simp] theorem run_exact {expected : Bytes} :
    (exact expected).run bytes = some (u, rest) ↔ bytes = expected ++ rest := by
  simp only [exact, run_bind_eq_some, run_take, run_check, beq_iff_eq]
  constructor
  · intro h
    obtain ⟨taken, mid, ⟨-, rfl⟩, rfl, rfl⟩ := h
    rfl
  · intro h
    exact ⟨expected, rest, ⟨rfl, h⟩, rfl, rfl⟩

/-- The next `k` bytes as a number. -/
def number (k : Nat) : Reader Nat := ofLittleEndian <$> take k

theorem run_number {k n : Nat} :
    (number k).run bytes = some (n, rest) ↔ n < 256 ^ k ∧ bytes = littleEndian k n ++ rest := by
  rw [number, map_eq_pure_bind]
  simp only [run_bind_eq_some, run_take, run_pure_eq_some]
  constructor
  · intro h
    obtain ⟨taken, mid, ⟨hlength, rfl⟩, rfl, rfl⟩ := h
    rw [← hlength, littleEndian_ofLittleEndian]
    exact ⟨ofLittleEndian_lt taken, rfl⟩
  · intro h
    obtain ⟨hlt, rfl⟩ := h
    refine ⟨littleEndian k n, rest, ⟨length_littleEndian k n, rfl⟩, ?_, rfl⟩
    rw [ofLittleEndian_littleEndian, Nat.mod_eq_of_lt hlt]

def u8 : Reader UInt8 := UInt8.ofNat <$> number 1
def u16 : Reader UInt16 := UInt16.ofNat <$> number 2
def u32 : Reader UInt32 := UInt32.ofNat <$> number 4
def u64 : Reader UInt64 := UInt64.ofNat <$> number 8

theorem run_map_eq_some {f : α → β} {b : β} :
    (f <$> reader).run bytes = some (b, rest) ↔
      ∃ a, reader.run bytes = some (a, rest) ∧ f a = b := by
  rw [map_eq_pure_bind]
  simp only [run_bind_eq_some, run_pure_eq_some]
  constructor
  · intro h
    obtain ⟨a, mid, hrun, hvalue, rfl⟩ := h
    exact ⟨a, hrun, hvalue⟩
  · intro h
    obtain ⟨a, hrun, hvalue⟩ := h
    exact ⟨a, rest, hrun, hvalue, rfl⟩

/-- Numbers of a type that has as many values as the bytes. -/
theorem run_typed {k : Nat} {ofNat : Nat → α} {toNat : α → Nat} (hlt : ∀ a, toNat a < 256 ^ k)
    (hleft : ∀ n, n < 256 ^ k → toNat (ofNat n) = n) (hright : ∀ a, ofNat (toNat a) = a) :
    (ofNat <$> number k).run bytes = some (a, rest) ↔
      bytes = littleEndian k (toNat a) ++ rest := by
  rw [run_map_eq_some]
  simp only [run_number]
  constructor
  · intro h
    obtain ⟨n, ⟨hn, rfl⟩, rfl⟩ := h
    rw [hleft n hn]
  · intro h
    exact ⟨toNat a, ⟨hlt a, h⟩, hright a⟩

@[simp] theorem run_u8 {n : UInt8} : u8.run bytes = some (n, rest) ↔ bytes = u8le n ++ rest := by
  have hbyte : littleEndian 1 n.toNat = u8le n := by
    rw [littleEndian, UInt8.ofNat_toNat]
    rfl
  rw [← hbyte]
  exact run_typed UInt8.toNat_lt (fun _ h => UInt8.toNat_ofNat_of_lt' h)
    (fun _ => UInt8.ofNat_toNat)

@[simp] theorem run_u16 {n : UInt16} : u16.run bytes = some (n, rest) ↔ bytes = u16le n ++ rest :=
  run_typed UInt16.toNat_lt (fun _ h => UInt16.toNat_ofNat_of_lt' h) (fun _ => UInt16.ofNat_toNat)

@[simp] theorem run_u32 {n : UInt32} : u32.run bytes = some (n, rest) ↔ bytes = u32le n ++ rest :=
  run_typed UInt32.toNat_lt (fun _ h => UInt32.toNat_ofNat_of_lt' h) (fun _ => UInt32.ofNat_toNat)

@[simp] theorem run_u64 {n : UInt64} : u64.run bytes = some (n, rest) ↔ bytes = u64le n ++ rest :=
  run_typed UInt64.toNat_lt (fun _ h => UInt64.toNat_ofNat_of_lt' h) (fun _ => UInt64.ofNat_toNat)

/-- A byte that stands for a flag. -/
def flag : Reader Bool := do
  let byte ← u8
  check (byte ≤ 1)
  pure (byte != 0)

@[simp] theorem run_flag {b : Bool} :
    flag.run bytes = some (b, rest) ↔ bytes = u8le (flagByte b) ++ rest := by
  simp only [flag, run_bind_eq_some, run_u8, run_check, run_pure_eq_some, decide_eq_true_eq]
  constructor
  · intro h
    obtain ⟨byte, mid, rfl, -, mid, ⟨hle, rfl⟩, rfl, rfl⟩ := h
    have hbyte : byte = 0 ∨ byte = 1 := by
      have hnat : byte.toNat ≤ 1 := UInt8.le_iff_toNat_le.1 hle
      have hcases : byte.toNat = 0 ∨ byte.toNat = 1 := by omega
      rcases hcases with hzero | hone
      · exact .inl (UInt8.toNat_inj.1 hzero)
      · exact .inr (UInt8.toNat_inj.1 hone)
    rcases hbyte with rfl | rfl
    all_goals rfl
  · intro h
    refine ⟨flagByte b, rest, h, (), rest, ⟨?_, rfl⟩, ?_, rfl⟩
    all_goals cases b <;> decide

/-- A string behind its length, that is not empty, not too long, and acceptable. -/
def string (maximum : Nat) (accepts : Bytes → Bool) : Reader Bytes := do
  let length ← u16
  check (length != 0 && length.toNat ≤ maximum)
  let s ← take length.toNat
  check (accepts s)
  pure s

/-- A string that the reader takes. -/
def Fits (maximum : Nat) (s : Bytes) : Prop := 0 < s.length ∧ s.length ≤ maximum

instance (maximum : Nat) (s : Bytes) : Decidable (Fits maximum s) :=
  inferInstanceAs (Decidable (_ ∧ _))

theorem run_string {maximum : Nat} (hmaximum : maximum < 2 ^ 16) {accepts : Bytes → Bool}
    {s : Bytes} :
    (string maximum accepts).run bytes = some (s, rest) ↔
      (Fits maximum s ∧ accepts s = true) ∧ bytes = stringBytes s ++ rest := by
  simp only [string, run_bind_eq_some, run_u16, run_check, run_take, run_pure_eq_some,
    Bool.and_eq_true, bne_iff_ne, decide_eq_true_eq]
  constructor
  · intro h
    obtain ⟨length, mid, rfl, -, mid, ⟨⟨hzero, hle⟩, rfl⟩, taken, mid, ⟨hlength, rfl⟩, -, mid,
      ⟨haccepts, rfl⟩, rfl, rfl⟩ := h
    have hpos : length.toNat ≠ 0 := fun h => hzero (UInt16.toNat_inj.1 h)
    refine ⟨⟨⟨by omega, by omega⟩, haccepts⟩, ?_⟩
    rw [stringBytes, hlength, UInt16.ofNat_toNat, List.append_assoc]
  · intro h
    obtain ⟨⟨⟨hpos, hle⟩, haccepts⟩, rfl⟩ := h
    have hlength : (UInt16.ofNat s.length).toNat = s.length :=
      UInt16.toNat_ofNat_of_lt' (lt_of_le_of_lt hle hmaximum)
    refine ⟨UInt16.ofNat s.length, s ++ rest, by rw [stringBytes, List.append_assoc], (), _,
      ⟨⟨?_, by rw [hlength]; exact hle⟩, rfl⟩, s, rest, ⟨hlength.symm, rfl⟩, (), rest,
      ⟨haccepts, rfl⟩, rfl, rfl⟩
    intro hzero
    rw [hzero] at hlength
    have hnone : s.length = 0 := hlength.symm
    omega

end Reader

/-! ## UTF-8 -/

/-- The bytes that may follow a first byte, each in its range. -/
def utf8Continuation (lead : UInt8) : Option (List (UInt8 × UInt8)) :=
  if lead < 0x80 then some []
  else if 0xC2 ≤ lead && lead ≤ 0xDF then some [(0x80, 0xBF)]
  else if lead = 0xE0 then some [(0xA0, 0xBF), (0x80, 0xBF)]
  else if lead = 0xED then some [(0x80, 0x9F), (0x80, 0xBF)]
  else if 0xE1 ≤ lead && lead ≤ 0xEF then some [(0x80, 0xBF), (0x80, 0xBF)]
  else if lead = 0xF0 then some [(0x90, 0xBF), (0x80, 0xBF), (0x80, 0xBF)]
  else if 0xF1 ≤ lead && lead ≤ 0xF3 then some [(0x80, 0xBF), (0x80, 0xBF), (0x80, 0xBF)]
  else if lead = 0xF4 then some [(0x80, 0x8F), (0x80, 0xBF), (0x80, 0xBF)]
  else none

/-- The bytes are well-formed UTF-8, where those of the first character are still to come. -/
def utf8After : List (UInt8 × UInt8) → Bytes → Bool
  | [], [] => true
  | _ :: _, [] => false
  | (lowest, highest) :: expected, b :: bytes =>
    lowest ≤ b && b ≤ highest && utf8After expected bytes
  | [], b :: bytes =>
    match utf8Continuation b with
    | some expected => utf8After expected bytes
    | none => false

/-- Well-formed UTF-8: the shortest form of each character, and no surrogates. -/
def utf8 (bytes : Bytes) : Bool := utf8After [] bytes

/-- ASCII is UTF-8. -/
theorem utf8_of_ascii {bytes : Bytes} (h : ∀ b ∈ bytes, b < 0x80) : utf8 bytes = true := by
  induction bytes with
  | nil => rfl
  | cons b bytes ih =>
    have hlead : utf8Continuation b = some [] := if_pos (h b List.mem_cons_self)
    show utf8After [] (b :: bytes) = true
    simp only [utf8After, hlead]
    exact ih fun other hother => h other (List.mem_cons_of_mem b hother)

end NpcRuntime
