import NpcRuntime.Lib.Machine
import NpcRuntime.Lib.Ring

/-!
# The shared ring, one atomic step at a time

`SharedPcmRing` of `native/media-broker/src/audio_ring.cpp` as its three threads run it: a writer, a
reader and a controller that clears. Each step is one load, store or compare-exchange of a cursor,
or the copy of one frame, and the inputs say whose step is next. The counters of overflow and
underflow, which nothing here reads, are left out.
-/

namespace NpcRuntime.Playback

variable {α : Type}

/-- Where the writer is. -/
inductive RingWriter (α : Type) where
  | idle
  /-- The buffer is too short, and `available_frames` has loaded the write cursor. -/
  | short (frames : Nat) (write : UInt64)
  | loaded (interleaved : List α) (frames : Nat) (write : UInt64)
  | copying (interleaved : List α) (frames : Nat) (write : UInt64) (occupied accepted copied : Nat)
deriving DecidableEq

/-- Where the reader is. -/
inductive RingReader (α : Type) where
  | idle
  /-- The buffer is too short, and `available_frames` has loaded the write cursor. -/
  | short (frames : Nat) (write : UInt64)
  | loaded (frames : Nat) (read : UInt64)
  | copying (frames : Nat) (read : UInt64) (available delivered : Nat) (copied : List α)
  /-- The compare-exchange has failed. -/
  | failed (frames : Nat)
  | failedLoaded (frames : Nat) (write : UInt64)
deriving DecidableEq

/-- Where `clear` is. -/
inductive RingController where
  | idle
  | loaded (write : UInt64)
deriving DecidableEq

structure SharedPcmRing (α : Type) where
  slots : List α
  readCursor : UInt64
  writeCursor : UInt64
  writer : RingWriter α
  reader : RingReader α
  controller : RingController
deriving DecidableEq

/-- Whose step is next. A thread that is idle begins a call, one that is not goes on with its own. -/
inductive RingInput (α : Type) where
  | beginWrite (interleaved : List α) (frames : Nat)
  | writer
  | beginRead (room frames : Nat)
  | reader
  | beginClear
  | controller
deriving DecidableEq

/-- What a call returns, with the frames that it moved. -/
inductive RingEvent (α : Type) where
  | wrote (frames : List α) (transfer : Transfer)
  | read (frames : List α) (transfer : Transfer)
  | cleared
deriving DecidableEq

namespace SharedPcmRing

/-- The constructor: the storage is zeroed, and holds one frame at least. -/
def create (zero : α) (capacityFrames : Nat) : Option (SharedPcmRing α) :=
  if capacityFrames = 0 then none
  else some ⟨List.replicate capacityFrames zero, 0, 0, .idle, .idle, .idle⟩

variable (ring : SharedPcmRing α)

def capacity : Nat := ring.slots.length

/-- The frames between two cursors. -/
def between (write read : UInt64) : Nat := min (write - read).toNat ring.capacity

/-- The slot of a frame of a copy, which comes in two parts where it reaches the end. -/
def slotOf (cursor : UInt64) (frames i : Nat) : Nat :=
  let first := cursor.toNat % ring.capacity
  let firstCount := min frames (ring.capacity - first)
  if i < firstCount then first + i else i - firstCount

/-- The next step of the writer. -/
def writerStep : SharedPcmRing α × Option (RingEvent α) :=
  match ring.writer with
  | .idle => (ring, none)
  | .short frames write =>
    ({ ring with writer := .idle },
      some (.wrote [] ⟨frames, 0, ring.between write ring.readCursor, true, false⟩))
  | .loaded interleaved frames write =>
    let occupied := ring.between write ring.readCursor
    let accepted := min frames (ring.capacity - occupied)
    if accepted > 0 then
      ({ ring with writer := .copying interleaved frames write occupied accepted 0 }, none)
    else
      ({ ring with writer := .idle },
        some (.wrote [] ⟨frames, accepted, occupied + accepted, accepted < frames, false⟩))
  | .copying interleaved frames write occupied accepted copied =>
    if h : copied < accepted ∧ copied < interleaved.length then
      ({ ring with
        slots := ring.slots.set (ring.slotOf write accepted copied) (interleaved.get ⟨copied, h.2⟩)
        writer := .copying interleaved frames write occupied accepted (copied + 1) }, none)
    else
      ({ ring with
        writeCursor := write + UInt64.ofNat accepted
        writer := .idle },
        some (.wrote (interleaved.take accepted)
          ⟨frames, accepted, occupied + accepted, accepted < frames, false⟩))

/-- The next step of the reader. -/
def readerStep : SharedPcmRing α × Option (RingEvent α) :=
  match ring.reader with
  | .idle => (ring, none)
  | .short frames write =>
    ({ ring with reader := .idle },
      some (.read [] ⟨frames, 0, ring.between write ring.readCursor, false, true⟩))
  | .loaded frames read =>
    let available := ring.between ring.writeCursor read
    let delivered := min frames available
    if delivered > 0 then
      ({ ring with reader := .copying frames read available delivered [] }, none)
    else
      ({ ring with reader := .idle },
        some (.read [] ⟨frames, delivered, available - delivered, false, delivered < frames⟩))
  | .copying frames read available delivered copied =>
    if copied.length < delivered then
      ({ ring with
        reader := .copying frames read available delivered
          (copied ++ (ring.slots[ring.slotOf read delivered copied.length]?).toList) }, none)
    else if ring.readCursor = read then
      ({ ring with
        readCursor := read + UInt64.ofNat delivered
        reader := .idle },
        some (.read copied ⟨frames, delivered, available - delivered, false, delivered < frames⟩))
    else
      -- `clear` was faster: what was copied is zeroed, and nothing is delivered.
      ({ ring with reader := .failed frames }, none)
  | .failed frames => ({ ring with reader := .failedLoaded frames ring.writeCursor }, none)
  | .failedLoaded frames write =>
    ({ ring with reader := .idle },
      some (.read [] ⟨frames, 0, ring.between write ring.readCursor, false, true⟩))

/-- The next step of `clear`. -/
def controllerStep : SharedPcmRing α × Option (RingEvent α) :=
  match ring.controller with
  | .idle => (ring, none)
  | .loaded write => ({ ring with readCursor := write, controller := .idle }, some .cleared)

/-- A step of the thread that is next. -/
def run (input : RingInput α) : SharedPcmRing α × Option (RingEvent α) :=
  match input with
  | .beginWrite interleaved frames =>
    match ring.writer with
    | .idle =>
      if interleaved.length < frames then
        ({ ring with writer := .short frames ring.writeCursor }, none)
      else ({ ring with writer := .loaded interleaved frames ring.writeCursor }, none)
    | _ => (ring, none)
  | .writer => ring.writerStep
  | .beginRead room frames =>
    match ring.reader with
    | .idle =>
      if room < frames then ({ ring with reader := .short frames ring.writeCursor }, none)
      else ({ ring with reader := .loaded frames ring.readCursor }, none)
    | _ => (ring, none)
  | .reader => ring.readerStep
  | .beginClear =>
    match ring.controller with
    | .idle => ({ ring with controller := .loaded ring.writeCursor }, none)
    | _ => (ring, none)
  | .controller => ring.controllerStep

def step (input : RingInput α) (ring : SharedPcmRing α) : SharedPcmRing α := (ring.run input).1

/-! ## What the threads observe -/

/-- The frames of a write that ends. -/
def wrote (ring : SharedPcmRing α) (input : RingInput α) : Option (List α) :=
  match (ring.run input).2 with
  | some (.wrote frames _) => some frames
  | _ => none

/-- The frames of a read that ends. -/
def delivered (ring : SharedPcmRing α) (input : RingInput α) : Option (List α) :=
  match (ring.run input).2 with
  | some (.read frames _) => some frames
  | _ => none

/-- All that was written in a run, in order. -/
def written (inputs : List (RingInput α)) (ring : SharedPcmRing α) : List α :=
  (observed step wrote inputs ring).flatten

/-- All that was delivered in a run, in order. -/
def deliveries (inputs : List (RingInput α)) (ring : SharedPcmRing α) : List α :=
  (observed step delivered inputs ring).flatten

/-- The slot that a step writes to. -/
def overwrites (ring : SharedPcmRing α) (input : RingInput α) : Option Nat :=
  match input, ring.writer with
  | .writer, .copying interleaved _ write _ accepted copied =>
    if copied < accepted ∧ copied < interleaved.length then
      some (ring.slotOf write accepted copied)
    else none
  | _, _ => none

end SharedPcmRing

end NpcRuntime.Playback
