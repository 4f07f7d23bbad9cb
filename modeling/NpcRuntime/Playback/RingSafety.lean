import NpcRuntime.Playback.SharedRing

/-!
# What the shared ring delivers

`clear` stores a write cursor that it has loaded before. A reader that has passed it meanwhile is
set back, and delivers again what it has delivered (`cleared_twice`). Where no `clear` is behind the
reader, and the cursors do not wrap, the ring is a queue: what the reads deliver is, in order, part
of what the writes wrote, and nothing that was written before a `clear` began is delivered after it
(`ring_fifo_iff`). `Inv published` says where the frames of `published`, which is everything written
so far, are in the slots, and what each thread has copied; `deliveries_sublist` is the law that
every run from such a state obeys.
-/

namespace NpcRuntime.Playback

variable {α : Type}

namespace SharedPcmRing

/-! ## Slots -/

variable {frames : Nat} {ring : SharedPcmRing α}

theorem slotOf_eq {cursor : UInt64} {i : Nat} (hframes : frames ≤ ring.capacity) (hi : i < frames) :
    ring.slotOf cursor frames i = (cursor.toNat + i) % ring.capacity := by
  have hfirst : cursor.toNat % ring.capacity < ring.capacity := Nat.mod_lt _ (by omega)
  rw [add_mod_circle (by omega)]
  simp only [slotOf]
  by_cases hinside : cursor.toNat % ring.capacity + i < ring.capacity
  · rw [if_pos hinside, if_pos (by omega)]
  · rw [if_neg hinside, if_neg (by omega)]
    omega

/-- Two frames less than a round apart have different slots. -/
theorem slots_ne {capacity a b : Nat} (h : a < b) (hb : b < a + capacity) :
    a % capacity ≠ b % capacity := by
  obtain ⟨j, rfl⟩ : ∃ j, b = a + j := ⟨b - a, by omega⟩
  rw [add_mod_circle (by omega)]
  split <;> omega

/-- A cursor that moves on without wrapping. -/
theorem toNat_advance {cursor : UInt64} {n : Nat} (h : cursor.toNat + n < UInt64.size) :
    (cursor + UInt64.ofNat n).toNat = cursor.toNat + n := by
  have hn : n % 2 ^ 64 = n := Nat.mod_eq_of_lt (by unfold UInt64.size at h; omega)
  rw [UInt64.toNat_add, UInt64.toNat_ofNat', hn]
  exact Nat.mod_eq_of_lt h

variable {write read : UInt64}

theorem between_eq (h : read.toNat ≤ write.toNat) :
    ring.between write read = min (write.toNat - read.toNat) ring.capacity := by
  rw [between, UInt64.toNat_sub_of_le _ _ (UInt64.le_iff_toNat_le.2 h)]

/-! ## The invariant -/

/-- What the writer has loaded is the cursor, and what it has copied is in the slots that the
reader has left. -/
def WriterInv (ring : SharedPcmRing α) : Prop :=
  match ring.writer with
  | .idle => True
  | .short _ _ => True
  | .loaded interleaved frames write => write = ring.writeCursor ∧ frames ≤ interleaved.length
  | .copying interleaved _ write _ accepted copied =>
    write = ring.writeCursor ∧ accepted ≤ interleaved.length ∧ copied ≤ accepted ∧
      write.toNat + accepted ≤ ring.readCursor.toNat + ring.capacity ∧
      ∀ j, j < copied → ring.slots[(write.toNat + j) % ring.capacity]? = interleaved[j]?

/-- Unless the read cursor has moved, what the reader has copied is what it reads. -/
def ReaderInv (published : List α) (ring : SharedPcmRing α) : Prop :=
  match ring.reader with
  | .loaded _ read => read.toNat ≤ ring.readCursor.toNat
  | .copying _ read _ delivered copied =>
    read.toNat ≤ ring.readCursor.toNat ∧
      (read = ring.readCursor →
        read.toNat + delivered ≤ ring.writeCursor.toNat ∧ delivered ≤ ring.capacity ∧
          copied.length ≤ delivered ∧
          copied = (published.drop read.toNat).take copied.length)
  | _ => True

/-- The cursors are a capacity apart at most, and between them the slots hold what was written. -/
structure Inv (published : List α) (ring : SharedPcmRing α) : Prop where
  pos : 0 < ring.capacity
  length : published.length = ring.writeCursor.toNat
  read_le : ring.readCursor.toNat ≤ ring.writeCursor.toNat
  room : ring.writeCursor.toNat ≤ ring.readCursor.toNat + ring.capacity
  held : ∀ k, ring.readCursor.toNat ≤ k → k < ring.writeCursor.toNat →
    ring.slots[k % ring.capacity]? = published[k]?
  writer : ring.WriterInv
  reader : ReaderInv published ring
  controller : ∀ write, ring.controller = .loaded write → write.toNat ≤ ring.writeCursor.toNat

theorem inv_create {zero : α} {capacityFrames : Nat} (h : create zero capacityFrames = some ring) :
    Inv [] ring := by
  unfold create at h
  by_cases hzero : capacityFrames = 0
  · rw [if_pos hzero] at h
    cases h
  · rw [if_neg hzero] at h
    cases h
    refine ⟨?_, rfl, le_rfl, Nat.zero_le _, ?_, trivial, trivial, fun _ hw => nomatch hw⟩
    · show 0 < (List.replicate capacityFrames zero).length
      rw [List.length_replicate]
      omega
    · intro k _ hk
      exact absurd hk (Nat.not_lt_zero k)

/-! ## Conditions on a step -/

/-- No `clear` stores a write cursor that the reader has passed. -/
def NotBehind (ring : SharedPcmRing α) (input : RingInput α) : Prop :=
  match input, ring.controller with
  | .controller, .loaded write => ring.readCursor ≤ write
  | _, _ => True

/-- The write cursor does not wrap. -/
def NotWrapped (ring : SharedPcmRing α) (input : RingInput α) : Prop :=
  match input, ring.writer with
  | .writer, .copying _ _ write _ accepted _ => write.toNat + accepted < UInt64.size
  | _, _ => True

instance (ring : SharedPcmRing α) (input : RingInput α) : Decidable (NotBehind ring input) := by
  unfold NotBehind
  split <;> infer_instance

instance (ring : SharedPcmRing α) (input : RingInput α) : Decidable (NotWrapped ring input) := by
  unfold NotWrapped
  split <;> infer_instance

/-! ## Steps -/

variable {published : List α} {ring : SharedPcmRing α}

/-- What a step does to the cursors and to what is observed. -/
structure Advances (published : List α) (ring : SharedPcmRing α) (input : RingInput α) : Prop where
  inv : Inv (published ++ (ring.wrote input).getD []) (step input ring)
  /-- The reader takes from the front of what is not yet read. -/
  delivered : ∀ frames, ring.delivered input = some frames → frames =
    (published.drop ring.readCursor.toNat).take frames.length ∧
      (step input ring).readCursor.toNat = ring.readCursor.toNat + frames.length
  forward : ring.readCursor.toNat ≤ (step input ring).readCursor.toNat

variable {count : Nat}

/-- What was read off stays the same when more is written. -/
theorem take_drop_append {published more : List α} {read : Nat}
    (h : read + count ≤ published.length) :
    ((published ++ more).drop read).take count = (published.drop read).take count := by
  rw [List.drop_append_of_le_length (by omega), List.take_append_of_le_length]
  rw [List.length_drop]
  omega

variable {input : RingInput α}

/-- No frame is shown. -/
inductive Silent : Option (RingEvent α) → Prop
  | none : Silent none
  | wrote (transfer : Transfer) : Silent (some (.wrote [] transfer))
  | read (transfer : Transfer) : Silent (some (.read [] transfer))

section

variable (h : Inv published ring)

include h

/-- A step that moves neither cursor, writes no slot and shows no frame. -/
theorem Inv.advances_of_run (next : SharedPcmRing α) {event : Option (RingEvent α)}
    (hrun : ring.run input = (next, event)) (hsilent : Silent event)
    (hslots : next.slots = ring.slots) (hread : next.readCursor = ring.readCursor)
    (hwrite : next.writeCursor = ring.writeCursor) (hwriter : next.WriterInv)
    (hreader : ReaderInv published next) (hcontroller : ∀ write,
      next.controller = .loaded write → write.toNat ≤ ring.writeCursor.toNat) :
    Advances published ring input := by
  have hcapacity : next.capacity = ring.capacity := by rw [capacity, capacity, hslots]
  have hnext : step input ring = next := congrArg Prod.fst hrun
  have hwrote : (ring.wrote input).getD [] = [] := by
    rw [wrote, hrun]
    cases hsilent <;> rfl
  refine ⟨?_, ?_, ?_⟩
  · rw [hwrote, List.append_nil, hnext]
    refine ⟨?_, ?_, ?_, ?_, ?_, hwriter, hreader, ?_⟩
    · rw [hcapacity]
      exact h.pos
    · rw [hwrite]
      exact h.length
    · rw [hread, hwrite]
      exact h.read_le
    · rw [hread, hwrite, hcapacity]
      exact h.room
    · rw [hread, hwrite, hcapacity, hslots]
      exact h.held
    · rw [hwrite]
      exact hcontroller
  · intro frames hframes
    obtain rfl : frames = [] := by
      rw [delivered, hrun] at hframes
      cases hsilent <;> cases hframes
      rfl
    rw [hnext, hread]
    exact ⟨rfl, rfl⟩
  · rw [hnext, hread]

theorem Inv.advances_of_stays (hrun : ring.run input = (ring, none)) :
    Advances published ring input :=
  h.advances_of_run ring hrun .none rfl rfl rfl h.writer h.reader h.controller

/-- A call that begins loads a cursor. -/
theorem advances_begin :
    (∀ interleaved frames, Advances published ring (.beginWrite interleaved frames)) ∧
      (∀ room frames, Advances published ring (.beginRead room frames)) ∧
      Advances published ring .beginClear := by
  refine ⟨?_, ?_, ?_⟩
  · intro interleaved frames
    cases hwriter : ring.writer with
    | idle =>
      by_cases hshort : interleaved.length < frames
      · exact h.advances_of_run { ring with writer := .short frames ring.writeCursor }
          (by simp only [run, hwriter]; exact if_pos hshort) .none rfl rfl rfl trivial h.reader
          h.controller
      · exact h.advances_of_run { ring with
            writer := .loaded interleaved frames ring.writeCursor }
          (by simp only [run, hwriter]; exact if_neg hshort) .none rfl rfl rfl
          ⟨rfl, not_lt.1 hshort⟩ h.reader h.controller
    | _ => exact h.advances_of_stays (by simp only [run, hwriter])
  · intro room frames
    cases hreader : ring.reader with
    | idle =>
      by_cases hshort : room < frames
      · exact h.advances_of_run { ring with reader := .short frames ring.writeCursor }
          (by simp only [run, hreader]; exact if_pos hshort) .none rfl rfl rfl h.writer trivial
          h.controller
      · exact h.advances_of_run { ring with reader := .loaded frames ring.readCursor }
          (by simp only [run, hreader]; exact if_neg hshort) .none rfl rfl rfl h.writer le_rfl
          h.controller
    | _ => exact h.advances_of_stays (by simp only [run, hreader])
  · cases hcontroller : ring.controller with
    | idle =>
      exact h.advances_of_run { ring with controller := .loaded ring.writeCursor }
        (by simp only [run, hcontroller]) .none rfl rfl rfl h.writer h.reader
        fun write hw => by cases hw; exact le_rfl
    | loaded write => exact h.advances_of_stays (by simp only [run, hcontroller])

/-- The writer copies a frame to a slot that the reader has left. -/
theorem advances_copy {interleaved : List α} {occupied : Nat} {accepted copied : Nat}
    (hwriter : ring.writer = .copying interleaved frames write occupied accepted copied)
    (hcopied : copied < accepted) (hlength : copied < interleaved.length) :
    Advances published ring .writer ∧
      ∀ k, ring.readCursor.toNat ≤ k → k < ring.writeCursor.toNat →
        k % ring.capacity ≠ ring.slotOf write accepted copied := by
  obtain ⟨hwrite, hfits, -, hfree, hdone⟩ :
      write = ring.writeCursor ∧ accepted ≤ interleaved.length ∧ copied ≤ accepted ∧
        write.toNat + accepted ≤ ring.readCursor.toNat + ring.capacity ∧
        ∀ j, j < copied → ring.slots[(write.toNat + j) % ring.capacity]? = interleaved[j]? := by
    have hw := h.writer
    rw [WriterInv, hwriter] at hw
    exact hw
  subst hwrite
  have hread := h.read_le
  have hslot : ring.slotOf ring.writeCursor accepted copied =
      (ring.writeCursor.toNat + copied) % ring.capacity := slotOf_eq (by omega) hcopied
  have hother : ∀ k, ring.readCursor.toNat ≤ k → k < ring.writeCursor.toNat + copied →
      (ring.writeCursor.toNat + copied) % ring.capacity ≠ k % ring.capacity :=
    fun k hk hlt => (slots_ne hlt (by omega)).symm
  have hbelow : (ring.writeCursor.toNat + copied) % ring.capacity < ring.slots.length :=
    Nat.mod_lt _ h.pos
  refine ⟨?_, fun k hk hlt => hslot ▸ (hother k hk (by omega)).symm⟩
  have hnext : step .writer ring = { ring with
      slots := ring.slots.set ((ring.writeCursor.toNat + copied) % ring.capacity)
        (interleaved.get ⟨copied, hlength⟩)
      writer := .copying interleaved frames ring.writeCursor occupied accepted (copied + 1) } := by
    simp [step, run, writerStep, hwriter, hcopied, hlength, hslot]
  have hcapacity : (step .writer ring).capacity = ring.capacity := by
    rw [hnext, capacity, capacity, List.length_set]
  have hwrote : ring.wrote .writer = none := by
    simp [wrote, run, writerStep, hwriter, hcopied, hlength]
  have hdelivered : ring.delivered .writer = none := by
    simp [delivered, run, writerStep, hwriter, hcopied, hlength]
  refine ⟨?_, fun frames hf => ?_, by rw [hnext]⟩
  · rw [hwrote, Option.getD_none, List.append_nil]
    refine ⟨hcapacity ▸ h.pos, ?_, ?_, ?_, ?_, ?_, ?_, ?_⟩
    · rw [hnext]
      exact h.length
    · rw [hnext]
      exact h.read_le
    · rw [hcapacity, hnext]
      exact h.room
    · rw [hcapacity, hnext]
      intro k hk hlt
      rw [List.getElem?_set_ne (hother k hk (lt_of_lt_of_le hlt (Nat.le_add_right _ _)))]
      exact h.held k hk hlt
    · rw [WriterInv, hcapacity, hnext]
      refine ⟨rfl, hfits, hcopied, hfree, ?_⟩
      intro j hj
      by_cases hlast : j = copied
      · subst hlast
        rw [List.getElem?_set_self hbelow, List.get_eq_getElem, List.getElem?_eq_getElem hlength]
      · rw [List.getElem?_set_ne (hother _ (by omega) (by omega))]
        exact hdone j (by omega)
    · rw [ReaderInv, hcapacity, hnext]
      exact h.reader
    · rw [hnext]
      exact h.controller
  · rw [hdelivered] at hf
    cases hf

/-- The writer publishes what it has copied. -/
theorem advances_publish {interleaved : List α} {occupied : Nat} {accepted copied : Nat}
    (hwriter : ring.writer = .copying interleaved frames write occupied accepted copied)
    (hlast : ¬ (copied < accepted ∧ copied < interleaved.length))
    (hnowrap : write.toNat + accepted < UInt64.size) : Advances published ring .writer := by
  obtain ⟨hwrite, hfits, hle, hfree, hdone⟩ :
      write = ring.writeCursor ∧ accepted ≤ interleaved.length ∧ copied ≤ accepted ∧
        write.toNat + accepted ≤ ring.readCursor.toNat + ring.capacity ∧
        ∀ j, j < copied → ring.slots[(write.toNat + j) % ring.capacity]? = interleaved[j]? := by
    have hw := h.writer
    rw [WriterInv, hwriter] at hw
    exact hw
  subst hwrite
  have hall : copied = accepted := by omega
  subst hall
  have hread := h.read_le
  have hlength := h.length
  have hcursor := toNat_advance hnowrap
  have hnext : step .writer ring = { ring with
      writeCursor := ring.writeCursor + UInt64.ofNat copied
      writer := .idle } := by
    simp [step, run, writerStep, hwriter]
  have hwrote : ring.wrote .writer = some (interleaved.take copied) := by
    simp [wrote, run, writerStep, hwriter]
  have hdelivered : ring.delivered .writer = none := by
    simp [delivered, run, writerStep, hwriter]
  have htake : (interleaved.take copied).length = copied := List.length_take_of_le hfits
  refine ⟨?_, fun frames hf => ?_, by rw [hnext]⟩
  · rw [hwrote, Option.getD_some, hnext]
    refine ⟨h.pos, ?_, ?_, ?_, ?_, trivial, ?_, ?_⟩
    · rw [List.length_append, htake, hlength]
      exact hcursor.symm
    · show _ ≤ (ring.writeCursor + UInt64.ofNat copied).toNat
      rw [hcursor]
      exact le_trans hread (Nat.le_add_right _ _)
    · show (ring.writeCursor + UInt64.ofNat copied).toNat ≤ _
      rw [hcursor]
      exact hfree
    · intro k hk hlt
      rw [hcursor] at hlt
      by_cases hold : k < ring.writeCursor.toNat
      · rw [List.getElem?_append_left (by omega)]
        exact h.held k hk hold
      · obtain ⟨j, rfl⟩ : ∃ j, k = ring.writeCursor.toNat + j :=
          ⟨k - ring.writeCursor.toNat, by omega⟩
        rw [List.getElem?_append_right (by omega), hlength, Nat.add_sub_cancel_left,
          List.getElem?_take_of_lt (by omega)]
        exact hdone j (by omega)
    · have hr := h.reader
      unfold ReaderInv at hr ⊢
      cases hreader : ring.reader with
      | loaded wanted read =>
        rw [hreader] at hr
        exact hr
      | copying wanted read available delivered taken =>
        rw [hreader] at hr
        refine ⟨hr.1, ?_⟩
        intro heq
        obtain ⟨hend, hcap, hcount, htaken⟩ := hr.2 heq
        refine ⟨?_, hcap, hcount, ?_⟩
        · show _ ≤ (ring.writeCursor + UInt64.ofNat copied).toNat
          omega
        · rw [take_drop_append (by omega)]
          exact htaken
      | _ => trivial
    · intro write hw
      show _ ≤ (ring.writeCursor + UInt64.ofNat copied).toNat
      have := h.controller write hw
      omega
  · rw [hdelivered] at hf
    cases hf

/-- **The steps of the writer.** -/
theorem advances_writer (hnowrap : NotWrapped ring .writer) : Advances published ring .writer := by
  cases hwriter : ring.writer with
  | idle => exact h.advances_of_stays (by simp only [run, writerStep, hwriter])
  | short frames write =>
    exact h.advances_of_run { ring with writer := .idle }
      (by simp only [run, writerStep, hwriter]; rfl) (.wrote _) rfl rfl rfl
      trivial h.reader h.controller
  | loaded interleaved frames write =>
    obtain ⟨hwrite, hfits⟩ : write = ring.writeCursor ∧ frames ≤ interleaved.length := by
      have hw := h.writer
      rw [WriterInv, hwriter] at hw
      exact hw
    by_cases hnone : min frames (ring.capacity - ring.between write ring.readCursor) > 0
    · refine h.advances_of_run { ring with
          writer := .copying interleaved frames write (ring.between write ring.readCursor)
            (min frames (ring.capacity - ring.between write ring.readCursor)) 0 }
        (by simp only [run, writerStep, hwriter]; exact if_pos hnone) .none rfl rfl rfl ?_
        h.reader h.controller
      have hread := h.read_le
      rw [hwrite, between_eq hread] at *
      refine ⟨rfl, by omega, by omega, ?_, fun j hj => absurd hj (Nat.not_lt_zero j)⟩
      show _ ≤ ring.readCursor.toNat + ring.capacity
      omega
    · exact h.advances_of_run { ring with writer := .idle }
        (by simp only [run, writerStep, hwriter]; exact if_neg hnone) (.wrote _) rfl rfl rfl trivial
        h.reader h.controller
  | copying interleaved frames write occupied accepted copied =>
    by_cases hmore : copied < accepted ∧ copied < interleaved.length
    · exact (advances_copy h hwriter hmore.1 hmore.2).1
    · simp only [NotWrapped, hwriter] at hnowrap
      exact advances_publish h hwriter hmore hnowrap

/-- The reader copies the frame that is next. -/
theorem readerInv_copy {available : Nat} {copied : List α}
    (hreader : ring.reader = .copying frames read available count copied)
    (hmore : copied.length < count) :
    ReaderInv published { ring with
      reader := .copying frames read available count
        (copied ++ (ring.slots[ring.slotOf read count copied.length]?).toList) } := by
  have hr := h.reader
  rw [ReaderInv, hreader] at hr
  refine ⟨hr.1, ?_⟩
  intro heq
  obtain ⟨hend, hcap, -, htaken⟩ := hr.2 heq
  have hlength := h.length
  obtain ⟨frame, hframe⟩ : ∃ frame, published[read.toNat + copied.length]? = some frame :=
    ⟨_, List.getElem?_eq_getElem (by omega)⟩
  have hslot : ring.slots[ring.slotOf read count copied.length]? = some frame := by
    rw [slotOf_eq hcap hmore, h.held _ (by rw [← heq]; omega) (by omega), hframe]
  rw [hslot]
  refine ⟨hend, hcap, by simp; omega, ?_⟩
  rw [Option.toList_some, List.length_append, List.length_singleton, List.take_add_one,
    List.getElem?_drop, hframe, ← htaken, Option.toList_some]

/-- The read cursor moves on. -/
theorem Inv.writer_of_le {next : SharedPcmRing α} (hslots : next.slots = ring.slots)
    (hwriter : next.writer = ring.writer) (hwrite : next.writeCursor = ring.writeCursor)
    (hread : ring.readCursor.toNat ≤ next.readCursor.toNat) : next.WriterInv := by
  have hw := h.writer
  unfold WriterInv capacity at hw ⊢
  rw [hwriter, hwrite, hslots]
  cases hcase : ring.writer with
  | copying interleaved frames write occupied accepted copied =>
    rw [hcase] at hw
    exact ⟨hw.1, hw.2.1, hw.2.2.1, by have := hw.2.2.2.1; omega, hw.2.2.2.2⟩
  | loaded interleaved frames write =>
    rw [hcase] at hw
    exact hw
  | _ => trivial

/-- The compare-exchange succeeds: what was copied is delivered. -/
theorem advances_deliver {available : Nat} {copied : List α}
    (hreader : ring.reader = .copying frames read available count copied)
    (hlast : ¬ copied.length < count) (hsame : ring.readCursor = read) :
    Advances published ring .reader := by
  have hr := h.reader
  rw [ReaderInv, hreader] at hr
  obtain ⟨hend, hcap, hcount, htaken⟩ := hr.2 hsame.symm
  subst hsame
  have hall : copied.length = count := by omega
  have hbelow := ring.writeCursor.toNat_lt
  have hroom := h.room
  have hcursor : (ring.readCursor + UInt64.ofNat count).toNat = ring.readCursor.toNat + count :=
    toNat_advance (by unfold UInt64.size; omega)
  have hnext : step .reader ring = { ring with
      readCursor := ring.readCursor + UInt64.ofNat count
      reader := .idle } := by
    simp [step, run, readerStep, hreader, hlast]
  have hwrote : ring.wrote .reader = none := by
    simp [wrote, run, readerStep, hreader, hlast]
  have hdelivered : ring.delivered .reader = some copied := by
    simp [delivered, run, readerStep, hreader, hlast]
  refine ⟨?_, ?_, ?_⟩
  · rw [hwrote, Option.getD_none, List.append_nil, hnext]
    refine ⟨h.pos, h.length, ?_, ?_, ?_, ?_, trivial, h.controller⟩
    · show (ring.readCursor + UInt64.ofNat count).toNat ≤ ring.writeCursor.toNat
      omega
    · show ring.writeCursor.toNat ≤ (ring.readCursor + UInt64.ofNat count).toNat + ring.capacity
      omega
    · intro k hk
      exact h.held k (le_trans (show _ ≤ (ring.readCursor + UInt64.ofNat count).toNat by omega) hk)
    · exact h.writer_of_le rfl rfl rfl
        (show _ ≤ (ring.readCursor + UInt64.ofNat count).toNat by omega)
  · intro delivered hframes
    rw [hdelivered] at hframes
    cases hframes
    rw [hnext]
    exact ⟨htaken, by rw [hall]; exact hcursor⟩
  · rw [hnext]
    show _ ≤ (ring.readCursor + UInt64.ofNat count).toNat
    omega

/-- **The steps of the reader.** -/
theorem advances_reader : Advances published ring .reader := by
  cases hreader : ring.reader with
  | idle => exact h.advances_of_stays (by simp only [run, readerStep, hreader])
  | short frames write | failedLoaded frames write =>
    exact h.advances_of_run { ring with reader := .idle }
      (by simp only [run, readerStep, hreader]; rfl) (.read _) rfl rfl rfl
      h.writer trivial h.controller
  | failed frames =>
    exact h.advances_of_run { ring with reader := .failedLoaded frames ring.writeCursor }
      (by simp only [run, readerStep, hreader]) .none rfl rfl rfl h.writer trivial
      h.controller
  | loaded frames read =>
    have hle : read.toNat ≤ ring.readCursor.toNat := by
      have hr := h.reader
      rw [ReaderInv, hreader] at hr
      exact hr
    have hread := h.read_le
    have hbetween : ring.between ring.writeCursor read = _ := between_eq (le_trans hle hread)
    by_cases hsome : min frames (ring.between ring.writeCursor read) > 0
    · refine h.advances_of_run { ring with
          reader := .copying frames read (ring.between ring.writeCursor read)
            (min frames (ring.between ring.writeCursor read)) [] }
        (by simp only [run, readerStep, hreader]; exact if_pos hsome) .none rfl rfl rfl h.writer
        ⟨hle, fun _ => ⟨?_, ?_, Nat.zero_le _, rfl⟩⟩ h.controller
      · show _ ≤ ring.writeCursor.toNat
        omega
      · show _ ≤ ring.capacity
        omega
    · exact h.advances_of_run { ring with reader := .idle }
        (by simp only [run, readerStep, hreader]; exact if_neg hsome) (.read _) rfl rfl rfl h.writer
        trivial h.controller
  | copying frames read available count copied =>
    by_cases hmore : copied.length < count
    · exact h.advances_of_run { ring with
          reader := .copying frames read available count
            (copied ++ (ring.slots[ring.slotOf read count copied.length]?).toList) }
        (by simp only [run, readerStep, hreader]; exact if_pos hmore) .none rfl rfl rfl h.writer
        (readerInv_copy h hreader hmore) h.controller
    · by_cases hsame : ring.readCursor = read
      · exact advances_deliver h hreader hmore hsame
      · exact h.advances_of_run { ring with reader := .failed frames }
          (by simp only [run, readerStep, hreader, if_neg hmore]; exact if_neg hsame) .none rfl
          rfl rfl h.writer trivial h.controller

/-- `clear` gives up what is between the read cursor and the cursor that it has loaded. -/
theorem advances_controller (hbehind : NotBehind ring .controller) :
    Advances published ring .controller := by
  cases hcontroller : ring.controller with
  | idle =>
    exact h.advances_of_stays (by simp only [run, controllerStep, hcontroller])
  | loaded write =>
    simp only [NotBehind, hcontroller] at hbehind
    have hforward : ring.readCursor.toNat ≤ write.toNat := UInt64.le_iff_toNat_le.1 hbehind
    have hwrite := h.controller write hcontroller
    have hroom := h.room
    have hnext : step .controller ring =
        { ring with readCursor := write, controller := .idle } := by
      simp [step, run, controllerStep, hcontroller]
    have hwrote : ring.wrote .controller = none := by
      simp [wrote, run, controllerStep, hcontroller]
    have hdelivered : ring.delivered .controller = none := by
      simp [delivered, run, controllerStep, hcontroller]
    refine ⟨?_, fun frames hf => ?_, by rw [hnext]; exact hforward⟩
    · rw [hwrote, Option.getD_none, List.append_nil, hnext]
      refine ⟨h.pos, h.length, hwrite, ?_, ?_, ?_, ?_, fun _ hw => nomatch hw⟩
      · show ring.writeCursor.toNat ≤ write.toNat + ring.capacity
        omega
      · intro k hk
        exact h.held k (le_trans hforward hk)
      · exact h.writer_of_le rfl rfl rfl hforward
      · have hr := h.reader
        unfold ReaderInv at hr ⊢
        cases hreader : ring.reader with
        | loaded wanted read =>
          rw [hreader] at hr
          exact le_trans hr hforward
        | copying wanted read available count copied =>
          rw [hreader] at hr
          refine ⟨le_trans hr.1 hforward, ?_⟩
          -- A reader that began where this `clear` stores has seen no other cursor.
          intro heq
          refine hr.2 (UInt64.toNat.inj ?_)
          rw [heq] at hr ⊢
          exact le_antisymm hr.1 hforward
        | _ => trivial
    · rw [hdelivered] at hf
      cases hf

/-- **The step lemma.** -/
theorem advances (hbehind : NotBehind ring input) (hnowrap : NotWrapped ring input) :
    Advances published ring input := by
  cases input with
  | beginWrite interleaved frames => exact (advances_begin h).1 interleaved frames
  | beginRead room frames => exact (advances_begin h).2.1 room frames
  | beginClear => exact (advances_begin h).2.2
  | writer => exact advances_writer h hnowrap
  | reader => exact advances_reader h
  | controller => exact advances_controller h hbehind

end

/-! ## Runs -/

/-- The steps of a run that keep the ring a queue. -/
def Sound (ring : SharedPcmRing α) (input : RingInput α) : Prop :=
  NotBehind ring input ∧ NotWrapped ring input

theorem flatten_toList_append (frames : Option (List α)) (rest : List (List α)) :
    (frames.toList ++ rest).flatten = frames.getD [] ++ rest.flatten := by
  cases frames <;> simp

theorem written_cons (input : RingInput α) (inputs : List (RingInput α))
    (ring : SharedPcmRing α) :
    written (input :: inputs) ring =
      (ring.wrote input).getD [] ++ written inputs (step input ring) :=
  flatten_toList_append ..

theorem deliveries_cons (input : RingInput α) (inputs : List (RingInput α))
    (ring : SharedPcmRing α) :
    deliveries (input :: inputs) ring =
      (ring.delivered input).getD [] ++ deliveries inputs (step input ring) :=
  flatten_toList_append ..

theorem written_append (before after : List (RingInput α)) (ring : SharedPcmRing α) :
    written (before ++ after) ring =
      written before ring ++ written after (runFrom step before ring) := by
  rw [written, observed_append, List.flatten_append]
  rfl

variable {inputs : List (RingInput α)}

theorem inv_run (h : Inv published ring) (hsound : Along step Sound inputs ring) :
    Inv (published ++ written inputs ring) (runFrom step inputs ring) := by
  induction inputs generalizing published ring with
  | nil =>
    show Inv (published ++ []) ring
    rw [List.append_nil]
    exact h
  | cons input inputs ih =>
    rw [written_cons, ← List.append_assoc]
    exact ih (advances h hsound.1.1 hsound.1.2).inv hsound.2

/-- **The ring is a queue.** What a run delivers is, in order, part of what is written from the
read cursor on. -/
theorem deliveries_sublist (h : Inv published ring) (hsound : Along step Sound inputs ring) :
    (deliveries inputs ring).Sublist
      ((published ++ written inputs ring).drop ring.readCursor.toNat) := by
  induction inputs generalizing published ring with
  | nil => exact List.nil_sublist _
  | cons input inputs ih =>
    have hadvances := advances h hsound.1.1 hsound.1.2
    have hrest := ih hadvances.inv hsound.2
    rw [List.append_assoc, ← written_cons] at hrest
    rw [deliveries_cons]
    cases hdelivered : ring.delivered input with
    | none =>
      rw [Option.getD_none, List.nil_append]
      exact hrest.trans (List.drop_sublist_drop_left _ hadvances.forward)
    | some frames =>
      obtain ⟨hframes, hcursor⟩ := hadvances.delivered frames hdelivered
      rw [Option.getD_some]
      rw [hcursor, ← List.drop_drop] at hrest
      have hbound : frames.length ≤ (published.drop ring.readCursor.toNat).length := by
        rw [hframes]
        exact List.length_take_le' _ _
      have hall : ((published ++ written (input :: inputs) ring).drop
          ring.readCursor.toNat).take frames.length = frames := by
        rw [List.length_drop] at hbound
        by_cases hempty : frames.length = 0
        · rw [List.length_eq_zero_iff.1 hempty]
          rfl
        · rw [take_drop_append (by omega)]
          exact hframes.symm
      rw [← List.take_append_drop frames.length
        ((published ++ written (input :: inputs) ring).drop ring.readCursor.toNat), hall]
      exact (List.Sublist.refl frames).append hrest

/-- A `clear` keeps the cursor that it has loaded until it stores it. -/
theorem loaded_kept (h : ring.controller = .loaded write) (hstore : .controller ∉ inputs) :
    (runFrom step inputs ring).controller = .loaded write := by
  induction inputs generalizing ring with
  | nil => exact h
  | cons input inputs ih =>
    obtain ⟨hinput, hinputs⟩ := not_or.1 (mt List.mem_cons.2 hstore)
    refine ih ?_ hinputs
    cases input with
    | beginWrite interleaved frames =>
      simp only [step, run]
      split
      · split <;> exact h
      · exact h
    | beginRead room frames =>
      simp only [step, run]
      split
      · split <;> exact h
      · exact h
    | beginClear =>
      simp only [step, run, h]
    | writer =>
      simp only [step, run, writerStep]
      split
      · exact h
      · exact h
      · split <;> exact h
      · split <;> exact h
    | reader =>
      simp only [step, run, readerStep]
      split
      · exact h
      · exact h
      · split <;> exact h
      · split
        · exact h
        · split <;> exact h
      · exact h
      · exact h
    | controller => exact absurd rfl hinput

/-- What the ring promises its threads along a run. -/
structure Safe (inputs : List (RingInput α)) (ring : SharedPcmRing α) : Prop where
  /-- Frames are delivered in the order written, none twice. -/
  fifo : (deliveries inputs ring).Sublist (written inputs ring)
  /-- What was written before a `clear` began is not delivered after it. -/
  cleared : ∀ before between after,
    inputs = before ++ .beginClear :: between ++ .controller :: after →
    (runFrom step before ring).controller = .idle → .controller ∉ between →
    (deliveries after
        (runFrom step (before ++ .beginClear :: between ++ [.controller]) ring)).Sublist
      ((written inputs ring).drop (written before ring).length)
  forward : Along step (fun ring input => ring.readCursor ≤ (step input ring).readCursor) inputs ring
  bounded : ∀ initial, initial <+: inputs →
    (runFrom step initial ring).readCursor.toNat ≤ (runFrom step initial ring).writeCursor.toNat ∧
      (runFrom step initial ring).writeCursor.toNat -
        (runFrom step initial ring).readCursor.toNat ≤ (runFrom step initial ring).capacity
  /-- No slot is written to that holds a frame neither read nor cleared. -/
  kept : Along step (fun ring input => ∀ slot, ring.overwrites input = some slot →
    ∀ k, ring.readCursor.toNat ≤ k → k < ring.writeCursor.toNat →
      k % ring.capacity ≠ slot) inputs ring

theorem kept_step (h : Inv published ring) {slot : Nat} (hslot : ring.overwrites input = some slot)
    {k : Nat} (hk : ring.readCursor.toNat ≤ k) (hlt : k < ring.writeCursor.toNat) :
    k % ring.capacity ≠ slot := by
  unfold overwrites at hslot
  split at hslot
  · next interleaved frames write occupied accepted copied hwriter =>
    split at hslot
    · next hmore =>
      cases hslot
      exact (advances_copy h hwriter hmore.1 hmore.2).2 k hk hlt
    · cases hslot
  · cases hslot

theorem safe_cleared (h : Inv [] ring) (hsound : Along step Sound inputs ring)
    {before between after : List (RingInput α)}
    (hinputs : inputs = before ++ .beginClear :: between ++ .controller :: after)
    (hidle : (runFrom step before ring).controller = .idle) (hstore : .controller ∉ between) :
    (deliveries after
        (runFrom step (before ++ .beginClear :: between ++ [.controller]) ring)).Sublist
      ((written inputs ring).drop (written before ring).length) := by
  have hparts : inputs = (before ++ .beginClear :: between ++ [.controller]) ++ after := by
    rw [hinputs]
    simp
  rw [hparts] at hsound ⊢
  obtain ⟨hfirst, hlast⟩ := along_append.1 hsound
  have hinv := inv_run h hfirst
  rw [List.nil_append] at hinv
  have hbefore := inv_run h (hfirst.initial ⟨_, (List.append_assoc _ _ _).symm⟩)
  rw [List.nil_append] at hbefore
  have hloaded : (runFrom step (before ++ .beginClear :: between) ring).controller =
      .loaded (runFrom step before ring).writeCursor := by
    rw [runFrom_append]
    show (runFrom step between (step .beginClear (runFrom step before ring))).controller = _
    refine loaded_kept ?_ hstore
    simp only [step, run, hidle]
  have hcursor : (runFrom step (before ++ .beginClear :: between ++ [.controller]) ring).readCursor =
      (runFrom step before ring).writeCursor := by
    rw [runFrom_append]
    show (step .controller (runFrom step (before ++ .beginClear :: between) ring)).readCursor = _
    simp only [step, run, controllerStep, hloaded]
  have hdeliveries := deliveries_sublist hinv hlast
  rw [hcursor, ← hbefore.length, ← written_append] at hdeliveries
  exact hdeliveries

/-- **A run of the ring is safe exactly if no `clear` sets the reader back.** -/
theorem ring_fifo_iff {zero : α} {capacityFrames : Nat} {ring : SharedPcmRing α}
    (h : create zero capacityFrames = some ring) {inputs : List (RingInput α)}
    (hnowrap : Along step NotWrapped inputs ring) :
    Safe inputs ring ↔ Along step NotBehind inputs ring := by
  have hinv := inv_create h
  constructor
  · intro hsafe
    refine hsafe.forward.mono_inv (fun _ => True) (fun _ _ _ _ => trivial) ?_ trivial
    intro ring input _ hforward
    cases input with
    | controller =>
      cases hcontroller : ring.controller with
      | idle => simp only [NotBehind, hcontroller]
      | loaded write =>
        simp only [step, run, controllerStep, hcontroller] at hforward
        simpa only [NotBehind, hcontroller] using hforward
    | _ => trivial
  · intro hbehind
    have hsound : Along step Sound inputs ring := hbehind.and hnowrap
    have hstep : ∀ ring input, (∃ published, Inv published ring) → Sound ring input →
        ∃ published : List α, Inv published (step input ring) := by
      rintro ring input ⟨published, hpublished⟩ hinput
      exact ⟨_, (advances hpublished hinput.1 hinput.2).inv⟩
    refine ⟨?_, ?_, ?_, ?_, ?_⟩
    · have hdeliveries := deliveries_sublist hinv hsound
      rw [List.nil_append] at hdeliveries
      exact hdeliveries.trans (List.drop_sublist _ _)
    · intro before between after hinputs hidle hstore
      exact safe_cleared hinv hsound hinputs hidle hstore
    · refine hsound.mono_inv (fun ring => ∃ published, Inv published ring) hstep ?_ ⟨_, hinv⟩
      rintro ring input ⟨published, hpublished⟩ hinput
      exact UInt64.le_iff_toNat_le.2 (advances hpublished hinput.1 hinput.2).forward
    · intro initial hinitial
      have hreached := inv_run hinv (hsound.initial hinitial)
      exact ⟨hreached.read_le, Nat.sub_le_iff_le_add'.2 hreached.room⟩
    · refine hsound.mono_inv (fun ring => ∃ published, Inv published ring) hstep ?_ ⟨_, hinv⟩
      rintro ring input ⟨published, hpublished⟩ _ slot hslot k hk hlt
      exact kept_step hpublished hslot hk hlt

/-- A `clear` loads the write cursor and waits, while two frames are written and read. Then it
stores it, and they are read again. -/
def setBack : List (RingInput Nat) :=
  .beginClear :: .beginWrite [1, 2] 2 :: List.replicate 4 .writer ++
    .beginRead 2 2 :: List.replicate 4 .reader ++
    .controller :: .beginRead 2 2 :: List.replicate 4 .reader

theorem cleared_twice : ¬ ∀ ring, create 0 2 = some ring → Safe setBack ring := by
  intro h
  have hsafe := h ⟨[0, 0], 0, 0, .idle, .idle, .idle⟩ rfl
  have hfifo : [1, 2, 1, 2].Sublist [1, 2] := hsafe.fifo
  exact absurd hfifo (by decide)

/-- The same run where `clear` stores its cursor at once. -/
def clearedFirst : List (RingInput Nat) :=
  .beginClear :: .controller :: .beginWrite [1, 2] 2 :: List.replicate 4 .writer ++
    .beginRead 2 2 :: List.replicate 4 .reader

theorem ring_fifo_example : Safe clearedFirst ⟨[0, 0], 0, 0, .idle, .idle, .idle⟩ :=
  (@ring_fifo_iff Nat 0 2 _ rfl _ (by decide +kernel)).2 (by decide +kernel)

end SharedPcmRing

end NpcRuntime.Playback
