import Mathlib.Data.List.Basic
import Mathlib.Data.Nat.ModEq

/-!
# A bounded ring

Slots that are written and read in a circle, with a cursor for each side that only grows: how many
values were ever written, and how many read. The ring is a queue of bounded length: a write appends
what fits, a read takes from the front, and `clear` gives up the rest.
-/

namespace NpcRuntime

variable {α : Type}

/-! ## Slots -/

/-- The values put in place of as many slots, from the given one on. -/
def overwrite (slots : List α) (start : Nat) (values : List α) : List α :=
  slots.take start ++ values ++ slots.drop (start + values.length)

/-- The values put into the slots from the cursor on, in a circle. -/
def copyIn (slots : List α) (cursor : Nat) (values : List α) : List α :=
  let first := cursor % slots.length
  let firstCount := min values.length (slots.length - first)
  overwrite (overwrite slots first (values.take firstCount)) 0 (values.drop firstCount)

/-- The values of so many slots from the cursor on, in a circle. -/
def copyOut (slots : List α) (cursor count : Nat) : List α :=
  let first := cursor % slots.length
  let firstCount := min count (slots.length - first)
  (slots.drop first).take firstCount ++ slots.take (count - firstCount)

theorem length_overwrite {slots values : List α} {start : Nat}
    (h : start + values.length ≤ slots.length) :
    (overwrite slots start values).length = slots.length := by
  simp only [overwrite, List.length_append, List.length_take, List.length_drop]
  omega

/-- A step of less than one round. -/
theorem add_mod_circle {size cursor j : Nat} (hj : j < size) :
    (cursor + j) % size =
      if cursor % size + j < size then cursor % size + j else cursor % size + j - size := by
  have hcursor := Nat.mod_lt cursor (show 0 < size by omega)
  rw [Nat.add_mod, Nat.mod_eq_of_lt hj]
  by_cases hinside : cursor % size + j < size
  · rw [if_pos hinside, Nat.mod_eq_of_lt hinside]
  · rw [if_neg hinside, Nat.mod_eq_sub_mod (not_lt.1 hinside), Nat.mod_eq_of_lt (by omega)]

theorem length_copyIn {slots values : List α} {cursor : Nat}
    (hvalues : values.length ≤ slots.length) (hslots : 0 < slots.length) :
    (copyIn slots cursor values).length = slots.length := by
  have hfirst := Nat.mod_lt cursor hslots
  have hinner : (overwrite slots (cursor % slots.length)
      (values.take (min values.length (slots.length - cursor % slots.length)))).length =
      slots.length := by
    apply length_overwrite
    rw [List.length_take]
    omega
  unfold copyIn
  rw [length_overwrite, hinner]
  rw [hinner, List.length_drop]
  omega

/-! ## Rings -/

/-- A ring of at least one slot, whose reader is behind its writer by one round at most. -/
structure Ring (α : Type) where
  slots : List α
  readCursor : Nat
  writeCursor : Nat
  slots_pos : 0 < slots.length
  read_le : readCursor ≤ writeCursor
  unread_le : writeCursor - readCursor ≤ slots.length

/-- What a write or a read did. -/
structure Transfer where
  requested : Nat
  transferred : Nat
  available : Nat
  overflowed : Bool
  underflowed : Bool
deriving DecidableEq

namespace Ring

/-- A ring that nothing was written to. -/
def empty (slots : List α) (h : 0 < slots.length) : Ring α :=
  ⟨slots, 0, 0, h, le_rfl, Nat.zero_le _⟩

def capacity (ring : Ring α) : Nat := ring.slots.length

def available (ring : Ring α) : Nat := min (ring.writeCursor - ring.readCursor) ring.capacity

theorem available_eq (ring : Ring α) : ring.available = ring.writeCursor - ring.readCursor :=
  min_eq_left ring.unread_le

theorem available_le (ring : Ring α) : ring.available ≤ ring.capacity := min_le_right _ _

/-- How many of the values a write takes. -/
def accepted (ring : Ring α) (count : Nat) : Nat := min count (ring.capacity - ring.available)

theorem accepted_le (ring : Ring α) (count : Nat) :
    ring.accepted count ≤ count ∧ ring.available + ring.accepted count ≤ ring.capacity := by
  have havailable := ring.available_le
  unfold accepted
  omega

/-- A write that fits takes all. -/
theorem accepted_eq {ring : Ring α} {count : Nat} (h : count ≤ ring.capacity - ring.available) :
    ring.accepted count = count := min_eq_left h

/-- Writes the values that fit, and drops the others. -/
def write (ring : Ring α) (values : List α) : Transfer × Ring α :=
  let accepted := ring.accepted values.length
  (⟨values.length, accepted, ring.available + accepted, accepted < values.length, false⟩,
    { slots := copyIn ring.slots ring.writeCursor (values.take accepted)
      readCursor := ring.readCursor
      writeCursor := ring.writeCursor + accepted
      slots_pos := by
        rw [length_copyIn _ ring.slots_pos]
        · exact ring.slots_pos
        · have hle := ring.accepted_le values.length
          unfold capacity at hle
          rw [List.length_take]
          omega
      read_le := Nat.le_add_right_of_le ring.read_le
      unread_le := by
        have hle := ring.accepted_le values.length
        have heq := ring.available_eq
        unfold capacity at hle
        rw [length_copyIn _ ring.slots_pos]
        · have hread := ring.read_le
          omega
        · rw [List.length_take]
          omega })

/-- Reads so many values, or all there are. -/
def read (ring : Ring α) (count : Nat) : (Transfer × List α) × Ring α :=
  let delivered := min count ring.available
  ((⟨count, delivered, ring.available - delivered, false, delivered < count⟩,
      copyOut ring.slots ring.readCursor delivered),
    { slots := ring.slots
      readCursor := ring.readCursor + delivered
      writeCursor := ring.writeCursor
      slots_pos := ring.slots_pos
      read_le := by
        have heq := ring.available_eq
        have hread := ring.read_le
        omega
      unread_le := by
        have hunread := ring.unread_le
        omega })

/-- Gives up what was not read. -/
def clear (ring : Ring α) : Ring α :=
  ⟨ring.slots, ring.writeCursor, ring.writeCursor, ring.slots_pos, le_rfl, by
    rw [Nat.sub_self]
    exact Nat.zero_le _⟩

end Ring

end NpcRuntime
