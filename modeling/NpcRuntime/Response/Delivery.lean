import NpcRuntime.Lib.Machine
import NpcRuntime.Response.Envelope

/-!
# Delivered spans

`DeliveredSpanTracker` of `runtime-core/src/structured_response.rs`: the ledger of what the player
has heard or read. Evidence comes from two surfaces, late, twice or of an older generation; what
enters the ledger may be committed to memory.

The ledger is a list of exact, disjoint pieces of the spoken response in source order (`Ledger`).
`record_cases` says once what a record can do, and the results about runs follow from it.
-/

namespace NpcRuntime.Response

open Text

inductive DeliveredSurfaceV1 where
  | audio
  | subtitle
deriving DecidableEq

/-- The duration is in nanoseconds. -/
structure DeliveryEvidenceV1 where
  cancellationGeneration : Nat
  sentenceId : Nat
  textStartBytes : Nat
  textEndBytes : Nat
  surface : DeliveredSurfaceV1
  audibleFrames : Nat
  duration : Nat
deriving DecidableEq

structure CommittedSpanV1 where
  sentenceId : Nat
  textStartBytes : Nat
  textEndBytes : Nat
  text : Text
  surface : DeliveredSurfaceV1
  audibleFrames : Nat
  duration : Nat
deriving DecidableEq

inductive DeliveryTrackerState where
  | active
  | cancelled
  | finalized
deriving DecidableEq

inductive DeliveryRecordOutcome where
  | recorded
  | duplicateIgnored
deriving DecidableEq

inductive DeliveryCommitError where
  | staleGeneration (expected received : Nat)
  | closed
  | invalidRange
  | invalidUtf8Boundary
  | invalidSemanticBoundary
  | emptyAudioEvidence
  | overlappingOrOutOfOrder
deriving DecidableEq

structure DeliveredSpanTracker where
  cancellationGeneration : Nat
  spokenResponse : Text
  state : DeliveryTrackerState := .active
  spans : List CommittedSpanV1 := []
deriving DecidableEq

/-! ## Boundaries -/

def isWordBoundaryChar (ch : Char) : Bool :=
  isWhitespace ch || isAsciiPunctuation ch || ch == '\u2013' || ch == '\u2014' || ch == '\u2026'

def isCharBoundary (text : Text) (offset : Nat) : Bool := (splitAtByte text offset).isSome

/-- Asked at character boundaries only. -/
def isSemanticBoundary (text : Text) (offset : Nat) : Bool :=
  offset == 0 || offset == utf8Len text ||
    (splitAtByte text offset).any fun parts =>
      parts.1.getLast?.any isWordBoundaryChar || parts.2.head?.any isWordBoundaryChar

/-! ## Operations -/

namespace DeliveredSpanTracker

def new (cancellationGeneration : Nat) (spokenResponse : Text) :
    Except ResponseValidationError DeliveredSpanTracker := do
  validateText spokenResponse maxSpokenResponseBytes "spoken response"
  return { cancellationGeneration, spokenResponse }

def requireGeneration (t : DeliveredSpanTracker) (received : Nat) :
    Except DeliveryCommitError Unit :=
  if received = t.cancellationGeneration then .ok ()
  else .error (.staleGeneration t.cancellationGeneration received)

def validateRange (t : DeliveredSpanTracker) (start stop : Nat) : Except DeliveryCommitError Unit :=
  if stop ≤ start ∨ utf8Len t.spokenResponse < stop then .error .invalidRange
  else if !isCharBoundary t.spokenResponse start || !isCharBoundary t.spokenResponse stop then
    .error .invalidUtf8Boundary
  else if !isSemanticBoundary t.spokenResponse start || !isSemanticBoundary t.spokenResponse stop
    then .error .invalidSemanticBoundary
  else .ok ()

/-- Audio that nobody can have heard. -/
def isEmptyAudio (evidence : DeliveryEvidenceV1) : Bool :=
  evidence.surface == .audio && (evidence.audibleFrames == 0 || evidence.duration == 0)

/-- The span was delivered on the same surface over the same range. -/
def sameRange (evidence : DeliveryEvidenceV1) (span : CommittedSpanV1) : Bool :=
  span.textStartBytes == evidence.textStartBytes && span.textEndBytes == evidence.textEndBytes &&
    span.surface == evidence.surface

def sameReceipt (evidence : DeliveryEvidenceV1) (existing : CommittedSpanV1) : Bool :=
  existing.audibleFrames == evidence.audibleFrames && existing.duration == evidence.duration &&
    existing.sentenceId == evidence.sentenceId

/-- The evidence does not lie behind the last span. -/
def overlapsLast (t : DeliveredSpanTracker) (evidence : DeliveryEvidenceV1) : Bool :=
  t.spans.getLast?.any fun last =>
    decide (evidence.textStartBytes < last.textEndBytes) ||
      decide (evidence.textEndBytes ≤ last.textEndBytes)

/-- The span that the evidence commits. The slice is taken after `validate_range`, and `exact` of
`Ledger` says that it never panics. -/
def committedSpan (t : DeliveredSpanTracker) (evidence : DeliveryEvidenceV1) : CommittedSpanV1 where
  sentenceId := evidence.sentenceId
  textStartBytes := evidence.textStartBytes
  textEndBytes := evidence.textEndBytes
  text := (slice t.spokenResponse evidence.textStartBytes evidence.textEndBytes).getD []
  surface := evidence.surface
  audibleFrames := evidence.audibleFrames
  duration := evidence.duration

def record (evidence : DeliveryEvidenceV1) (t : DeliveredSpanTracker) :
    Except DeliveryCommitError DeliveryRecordOutcome × DeliveredSpanTracker :=
  match t.requireGeneration evidence.cancellationGeneration with
  | .error error => (.error error, t)
  | .ok () =>
    if t.state ≠ .active then (.error .closed, t)
    else
      match t.validateRange evidence.textStartBytes evidence.textEndBytes with
      | .error error => (.error error, t)
      | .ok () =>
        if isEmptyAudio evidence then (.error .emptyAudioEvidence, t)
        else
          match t.spans.find? (sameRange evidence) with
          | some existing =>
            if sameReceipt evidence existing then (.ok .duplicateIgnored, t)
            else (.error .overlappingOrOutOfOrder, t)
          | none =>
            if t.overlapsLast evidence then (.error .overlappingOrOutOfOrder, t)
            else (.ok .recorded, { t with spans := t.spans ++ [t.committedSpan evidence] })

/-- The common body of `cancel` and `finalize`. -/
def close (closed : DeliveryTrackerState) (observedGeneration : Nat) (t : DeliveredSpanTracker) :
    Except DeliveryCommitError Unit × DeliveredSpanTracker :=
  match t.requireGeneration observedGeneration with
  | .error error => (.error error, t)
  | .ok () => (.ok (), if t.state = .active then { t with state := closed } else t)

def cancel (observedGeneration : Nat) (t : DeliveredSpanTracker) :
    Except DeliveryCommitError Unit × DeliveredSpanTracker :=
  t.close .cancelled observedGeneration

def finalize (observedGeneration : Nat) (t : DeliveredSpanTracker) :
    Except DeliveryCommitError Unit × DeliveredSpanTracker :=
  t.close .finalized observedGeneration

end DeliveredSpanTracker

/-! ## Calls -/

inductive DeliveryCall where
  | record (evidence : DeliveryEvidenceV1)
  | cancel (observedGeneration : Nat)
  | finalize (observedGeneration : Nat)
deriving DecidableEq

/-- The call shuts the tracker. -/
def DeliveryCall.closes : DeliveryCall → Bool
  | .record _ => false
  | .cancel _ => true
  | .finalize _ => true

/-- What a call returns, `none` standing for the unit of `cancel` and `finalize`, and the tracker
it leaves. -/
def DeliveredSpanTracker.perform (call : DeliveryCall) (t : DeliveredSpanTracker) :
    Except DeliveryCommitError (Option DeliveryRecordOutcome) × DeliveredSpanTracker :=
  match call with
  | .record evidence => ((t.record evidence).1.map some, (t.record evidence).2)
  | .cancel generation => ((t.cancel generation).1.map fun _ => none, (t.cancel generation).2)
  | .finalize generation => ((t.finalize generation).1.map fun _ => none, (t.finalize generation).2)

/-- The tracker after a sequence of calls. -/
def DeliveredSpanTracker.after (calls : List DeliveryCall) (t : DeliveredSpanTracker) :
    DeliveredSpanTracker :=
  runFrom (fun call t => (t.perform call).2) calls t

/-! ## The ledger -/

/-- The spans are exact pieces of the text, in source order. -/
structure Ledger (text : Text) (spans : List CommittedSpanV1) : Prop where
  exact : ∀ span ∈ spans, slice text span.textStartBytes span.textEndBytes = some span.text
  nonempty : ∀ span ∈ spans, span.text ≠ []
  increasing : spans.Pairwise fun a b => a.textStartBytes < b.textStartBytes
  disjoint : spans.Pairwise fun a b => a.textEndBytes ≤ b.textStartBytes

variable {span : CommittedSpanV1}

namespace DeliveredSpanTracker

variable {t : DeliveredSpanTracker} {evidence : DeliveryEvidenceV1}

/-! ## One call -/

@[simp] theorem requireGeneration_eq_ok {received : Nat} :
    t.requireGeneration received = .ok () ↔ received = t.cancellationGeneration := by
  by_cases h : received = t.cancellationGeneration <;> simp [requireGeneration, h]

variable {start stop : Nat}

/-- Two character boundaries in order cut a piece out of the text. -/
theorem exists_slice {text : Text} (hlt : start < stop) (hstart : isCharBoundary text start = true)
    (hstop : isCharBoundary text stop = true) :
    ∃ piece, piece ≠ [] ∧ slice text start stop = some piece := by
  obtain ⟨⟨before, rest⟩, hbefore⟩ := Option.isSome_iff_exists.1 hstart
  obtain ⟨⟨upto, after⟩, hupto⟩ := Option.isSome_iff_exists.1 hstop
  obtain ⟨rfl, rfl⟩ := splitAtByte_eq_some.1 hbefore
  obtain ⟨hsplit, rfl⟩ := splitAtByte_eq_some.1 hupto
  rcases List.append_eq_append_iff.1 hsplit with ⟨piece, rfl, rfl⟩ | ⟨extra, rfl, -⟩
  · rw [utf8Len_append] at hlt ⊢
    refine ⟨piece, ?_, ?_⟩
    · rintro rfl
      rw [utf8Len_nil] at hlt
      omega
    · rw [← List.append_assoc]
      exact slice_append before piece after
  · rw [utf8Len_append] at hlt
    omega

theorem slice_bounds {text piece : Text} (h : slice text start stop = some piece)
    (hne : piece ≠ []) :
    start < stop ∧ stop ≤ utf8Len text ∧ isCharBoundary text start = true ∧
      isCharBoundary text stop = true := by
  obtain ⟨before, after, rfl, rfl, rfl⟩ := slice_eq_some.1 h
  have hpos := utf8Len_pos hne
  refine ⟨by omega, by simp only [utf8Len_append]; omega, ?_, ?_⟩
  · rw [isCharBoundary, List.append_assoc, splitAtByte_append]
    rfl
  · rw [isCharBoundary, ← utf8Len_append, splitAtByte_append]
    rfl

/-- A range is accepted when it is a piece of the text that ends at semantic boundaries. -/
theorem validateRange_eq_ok :
    t.validateRange start stop = .ok () ↔
      (∃ piece, piece ≠ [] ∧ slice t.spokenResponse start stop = some piece) ∧
        isSemanticBoundary t.spokenResponse start = true ∧
        isSemanticBoundary t.spokenResponse stop = true := by
  unfold validateRange
  constructor
  · intro h
    split_ifs at h with hrange hutf8 hsemantic
    rw [not_or] at hrange
    simp only [Bool.or_eq_true, Bool.not_eq_true', not_or, Bool.not_eq_false] at hutf8 hsemantic
    exact ⟨exists_slice (by omega) hutf8.1 hutf8.2, hsemantic⟩
  · rintro ⟨⟨piece, hne, hslice⟩, hsemantic⟩
    obtain ⟨hlt, hle, hstart, hstop⟩ := slice_bounds hslice hne
    rw [if_neg (by omega), if_neg (by simp [hstart, hstop]), if_neg (by simp [hsemantic])]

/-- **What a record can do**: fail, find its range in the ledger, or commit its span behind the
others. Only the last changes the tracker. -/
theorem record_cases (evidence : DeliveryEvidenceV1) (t : DeliveredSpanTracker) :
    (∃ error, t.record evidence = (.error error, t)) ∨
    (t.record evidence = (.ok .duplicateIgnored, t) ∧
      ∃ span ∈ t.spans, sameRange evidence span = true) ∨
    (t.record evidence =
        (.ok .recorded, { t with spans := t.spans ++ [t.committedSpan evidence] }) ∧
      evidence.cancellationGeneration = t.cancellationGeneration ∧ t.state = .active ∧
      t.validateRange evidence.textStartBytes evidence.textEndBytes = .ok () ∧
      t.spans.find? (sameRange evidence) = none ∧ t.overlapsLast evidence = false) := by
  unfold record
  cases hgeneration : t.requireGeneration evidence.cancellationGeneration with
  | error error => exact .inl ⟨error, rfl⟩
  | ok _ =>
    by_cases hstate : t.state = .active
    · rw [if_neg (by simp [hstate])]
      cases hrange : t.validateRange evidence.textStartBytes evidence.textEndBytes with
      | error error => exact .inl ⟨error, rfl⟩
      | ok _ =>
        by_cases haudio : isEmptyAudio evidence = true
        · exact .inl ⟨.emptyAudioEvidence, by simp [haudio]⟩
        · rw [if_neg haudio]
          cases hfind : t.spans.find? (sameRange evidence) with
          | some existing =>
            by_cases hsame : sameReceipt evidence existing = true
            · refine .inr (.inl ⟨by simp [hsame], existing, ?_, List.find?_some hfind⟩)
              exact List.mem_of_find?_eq_some hfind
            · exact .inl ⟨.overlappingOrOutOfOrder, by simp [hsame]⟩
          | none =>
            by_cases hlast : t.overlapsLast evidence = true
            · exact .inl ⟨.overlappingOrOutOfOrder, by simp [hlast]⟩
            · refine .inr (.inr ⟨by simp [hlast], ?_, hstate, rfl, rfl, by simpa using hlast⟩)
              exact requireGeneration_eq_ok.1 hgeneration
    · exact .inl ⟨.closed, by simp [hstate]⟩

/-- Evidence that meets every check is recorded. -/
theorem record_recorded (hgeneration : evidence.cancellationGeneration = t.cancellationGeneration)
    (hstate : t.state = .active)
    (hrange : t.validateRange evidence.textStartBytes evidence.textEndBytes = .ok ())
    (haudio : isEmptyAudio evidence = false) (hfind : t.spans.find? (sameRange evidence) = none)
    (hlast : t.overlapsLast evidence = false) :
    t.record evidence =
      (.ok .recorded, { t with spans := t.spans ++ [t.committedSpan evidence] }) := by
  unfold record
  simp [requireGeneration_eq_ok.2 hgeneration, hstate, hrange, haudio, hfind, hlast]

/-- Evidence that was accepted has its range in the ledger. -/
theorem record_ok_mem {outcome : DeliveryRecordOutcome} (h : (t.record evidence).1 = .ok outcome) :
    ∃ span ∈ (t.record evidence).2.spans, sameRange evidence span = true := by
  rcases record_cases evidence t with ⟨error, heq⟩ | ⟨heq, hmem⟩ | ⟨heq, -⟩
  · rw [heq] at h
    cases h
  · rw [heq]
    exact hmem
  · rw [heq]
    refine ⟨_, List.mem_append_right _ List.mem_cons_self, ?_⟩
    simp [sameRange, committedSpan]

/-- A range that is in the ledger is not added again. -/
theorem record_of_mem (hmem : span ∈ t.spans) (hsame : sameRange evidence span = true) :
    (t.record evidence).2 = t := by
  rcases record_cases evidence t with ⟨error, heq⟩ | ⟨heq, -⟩ | ⟨-, -, -, -, hfind, -⟩
  · rw [heq]
  · rw [heq]
  · exact absurd hsame (List.find?_eq_none.1 hfind span hmem)

theorem close_eq (closed : DeliveryTrackerState) (generation : Nat) (t : DeliveredSpanTracker) :
    t.close closed generation =
      if generation = t.cancellationGeneration then
        (.ok (), if t.state = .active then { t with state := closed } else t)
      else (.error (.staleGeneration t.cancellationGeneration generation), t) := by
  by_cases h : generation = t.cancellationGeneration <;> simp [close, requireGeneration, h]

/-- **What a call can do.** The response and the generation stay, and either a span of the current
generation is recorded, or the spans stay and a closed tracker stays closed. -/
theorem perform_cases (call : DeliveryCall) (t : DeliveredSpanTracker) :
    (t.perform call).2.spokenResponse = t.spokenResponse ∧
    (t.perform call).2.cancellationGeneration = t.cancellationGeneration ∧
    ((∃ evidence, call = .record evidence ∧ t.state = .active ∧
        t.perform call =
          (.ok (some .recorded), { t with spans := t.spans ++ [t.committedSpan evidence] }) ∧
        evidence.cancellationGeneration = t.cancellationGeneration ∧
        t.validateRange evidence.textStartBytes evidence.textEndBytes = .ok () ∧
        t.overlapsLast evidence = false) ∨
      ((t.perform call).1 ≠ .ok (some .recorded) ∧ (t.perform call).2.spans = t.spans ∧
        (t.state ≠ .active → (t.perform call).2.state ≠ .active))) := by
  cases call with
  | record evidence =>
    rcases record_cases evidence t with ⟨error, heq⟩ | ⟨heq, -⟩ |
      ⟨heq, hgeneration, hstate, hrange, -, hlast⟩
    · simp [perform, heq, Except.map]
    · simp [perform, heq, Except.map]
    · simp only [perform, heq]
      exact ⟨trivial, trivial, .inl ⟨evidence, rfl, hstate, rfl, hgeneration, hrange, hlast⟩⟩
  | cancel generation =>
    simp only [perform, cancel, close_eq]
    split_ifs <;> simp_all [Except.map]
  | finalize generation =>
    simp only [perform, finalize, close_eq]
    split_ifs <;> simp_all [Except.map]

end DeliveredSpanTracker

/-! ## The ledger grows by exact pieces -/

section Ledger

open DeliveredSpanTracker

variable {t : DeliveredSpanTracker} {evidence : DeliveryEvidenceV1} {text : Text}
  {spans : List CommittedSpanV1}

theorem Ledger.nil : Ledger text [] := ⟨by simp, by simp, .nil, .nil⟩

theorem Ledger.bounds (h : Ledger text spans) (hmem : span ∈ spans) :
    span.textStartBytes < span.textEndBytes :=
  (slice_bounds (h.exact span hmem) (h.nonempty span hmem)).1

/-- Every span ends where the last one ends, or before. -/
theorem Ledger.end_le_last (h : Ledger text spans) {last : CommittedSpanV1}
    (hlast : spans.getLast? = some last) (hmem : span ∈ spans) :
    span.textEndBytes ≤ last.textEndBytes := by
  obtain ⟨before, rfl⟩ := List.getLast?_eq_some_iff.1 hlast
  rcases List.mem_append.1 hmem with hbefore | hself
  · have hend := (List.pairwise_append.1 h.disjoint).2.2 span hbefore last List.mem_cons_self
    have hbounds := h.bounds (List.mem_append_right before List.mem_cons_self)
    omega
  · rw [List.mem_singleton.1 hself]

/-- Evidence that passes the overlap check starts behind every span. -/
theorem Ledger.end_le_start (h : Ledger text t.spans) (hlast : t.overlapsLast evidence = false)
    (hmem : span ∈ t.spans) : span.textEndBytes ≤ evidence.textStartBytes := by
  obtain ⟨last, heq⟩ := Option.ne_none_iff_exists'.1
    (mt List.getLast?_eq_none_iff.1 (List.ne_nil_of_mem hmem))
  have hend := h.end_le_last heq hmem
  rw [overlapsLast, heq, Option.any_some, Bool.or_eq_false_iff, decide_eq_false_iff_not] at hlast
  omega

/-- A recorded span extends the ledger. -/
theorem Ledger.record (h : Ledger t.spokenResponse t.spans)
    (hrange : t.validateRange evidence.textStartBytes evidence.textEndBytes = .ok ())
    (hlast : t.overlapsLast evidence = false) :
    Ledger t.spokenResponse (t.spans ++ [t.committedSpan evidence]) := by
  obtain ⟨⟨piece, hne, hslice⟩, -⟩ := validateRange_eq_ok.1 hrange
  have hbehind : ∀ span ∈ t.spans, span.textEndBytes ≤ evidence.textStartBytes :=
    fun span hmem => h.end_le_start hlast hmem
  refine ⟨?_, ?_, ?_, ?_⟩
  · intro span hmem
    rcases List.mem_append.1 hmem with hold | hnew
    · exact h.exact span hold
    · rw [List.mem_singleton.1 hnew]
      simp only [committedSpan, hslice, Option.getD_some]
  · intro span hmem
    rcases List.mem_append.1 hmem with hold | hnew
    · exact h.nonempty span hold
    · rw [List.mem_singleton.1 hnew]
      simpa only [committedSpan, hslice, Option.getD_some] using hne
  · refine List.pairwise_append.2 ⟨h.increasing, List.pairwise_singleton _ _, ?_⟩
    intro a ha b hb
    rw [List.mem_singleton.1 hb]
    exact (h.bounds ha).trans_le (hbehind a ha)
  · refine List.pairwise_append.2 ⟨h.disjoint, List.pairwise_singleton _ _, ?_⟩
    intro a ha b hb
    rw [List.mem_singleton.1 hb]
    exact hbehind a ha

end Ledger

/-! ## Runs -/

namespace DeliveredSpanTracker

variable {t : DeliveredSpanTracker}

theorem after_constants (calls : List DeliveryCall) (t : DeliveredSpanTracker) :
    (t.after calls).spokenResponse = t.spokenResponse ∧
      (t.after calls).cancellationGeneration = t.cancellationGeneration := by
  refine inv_runFrom (fun u : DeliveredSpanTracker => u.spokenResponse = t.spokenResponse ∧
    u.cancellationGeneration = t.cancellationGeneration) ?_ ⟨rfl, rfl⟩ calls
  rintro u call ⟨htext, hgeneration⟩
  obtain ⟨htext', hgeneration', -⟩ := perform_cases call u
  exact ⟨htext'.trans htext, hgeneration'.trans hgeneration⟩

/-- Every run keeps the ledger. -/
theorem after_ledger (calls : List DeliveryCall) (h : Ledger t.spokenResponse t.spans) :
    Ledger (t.after calls).spokenResponse (t.after calls).spans := by
  refine inv_runFrom (fun u : DeliveredSpanTracker => Ledger u.spokenResponse u.spans) ?_ h calls
  intro u call hu
  obtain ⟨htext, -, ⟨evidence, -, -, heq, -, hrange, hlast⟩ | ⟨-, hspans, -⟩⟩ :=
    perform_cases call u
  · rw [heq]
    exact hu.record hrange hlast
  · rw [htext, hspans]
    exact hu

/-- Nothing leaves the ledger. -/
theorem after_spans_subset (calls : List DeliveryCall) (t : DeliveredSpanTracker) :
    t.spans ⊆ (t.after calls).spans := by
  refine inv_runFrom (fun u : DeliveredSpanTracker => t.spans ⊆ u.spans) ?_ (List.Subset.refl _)
    calls
  intro u call hu
  obtain ⟨-, -, ⟨evidence, -, -, heq, -⟩ | ⟨-, hspans, -⟩⟩ := perform_cases call u
  · rw [heq]
    exact List.subset_append_of_subset_left _ hu
  · rw [hspans]
    exact hu

/-- Nothing enters a closed ledger. -/
theorem after_closed (calls : List DeliveryCall) (h : t.state ≠ .active) :
    (t.after calls).spans = t.spans := by
  refine (inv_runFrom (fun u : DeliveredSpanTracker => u.spans = t.spans ∧ u.state ≠ .active) ?_
    ⟨rfl, h⟩ calls).1
  rintro u call ⟨hspans, hstate⟩
  obtain ⟨-, -, ⟨-, -, hactive, -⟩ | ⟨-, hkept, hclosed⟩⟩ := perform_cases call u
  · exact absurd hactive hstate
  · exact ⟨hkept.trans hspans, hclosed hstate⟩

/-- A call that shuts the tracker and is accepted leaves it closed. -/
theorem perform_closes {call : DeliveryCall} (hcloses : call.closes = true)
    {outcome : Option DeliveryRecordOutcome} (hok : (t.perform call).1 = .ok outcome) :
    (t.perform call).2.state ≠ .active ∧ (t.perform call).2.spans = t.spans := by
  cases call with
  | record evidence => cases hcloses
  | cancel generation =>
    simp only [perform, cancel, close_eq] at hok ⊢
    split_ifs at hok ⊢ <;> simp_all [Except.map]
  | finalize generation =>
    simp only [perform, finalize, close_eq] at hok ⊢
    split_ifs at hok ⊢ <;> simp_all [Except.map]

theorem new_eq_ok {generation : Nat} {text : Text} {fresh : DeliveredSpanTracker} :
    new generation text = .ok fresh ↔
      validateText text maxSpokenResponseBytes "spoken response" = .ok () ∧
        fresh = { cancellationGeneration := generation, spokenResponse := text } := by
  unfold new
  cases validateText text maxSpokenResponseBytes "spoken response" with
  | error error => simp [bind, Except.bind]
  | ok _ =>
    simp [bind, Except.bind, pure, Except.pure]
    exact eq_comm

end DeliveredSpanTracker

open DeliveredSpanTracker in
/-- **The ledger of delivered spans.** Whatever is recorded, cancelled and finalized, in any order
and with any evidence: the spans are exact, non-empty, disjoint pieces of the spoken response in
source order; a call that is refused or ignored leaves them, and so does evidence that was accepted
before, or of another generation; and once the tracker is shut they stay. -/
theorem delivered_ledger {generation : Nat} {text : Text} {fresh : DeliveredSpanTracker}
    (hnew : DeliveredSpanTracker.new generation text = .ok fresh) (calls : List DeliveryCall) :
    Ledger text (fresh.after calls).spans ∧
    (∀ call, (∃ error, ((fresh.after calls).perform call).1 = .error error) ∨
        ((fresh.after calls).perform call).1 = .ok (some .duplicateIgnored) →
      ((fresh.after calls).perform call).2.spans = (fresh.after calls).spans) ∧
    (∀ evidence outcome later, ((fresh.after calls).record evidence).1 = .ok outcome →
      ((((fresh.after calls).record evidence).2.after later).record evidence).2.spans =
        (((fresh.after calls).record evidence).2.after later).spans) ∧
    (∀ evidence, evidence.cancellationGeneration ≠ generation →
      (fresh.after calls).record evidence =
        (.error (.staleGeneration generation evidence.cancellationGeneration),
          fresh.after calls)) ∧
    ∀ call outcome later, call.closes = true →
      ((fresh.after calls).perform call).1 = .ok outcome →
      (((fresh.after calls).perform call).2.after later).spans = (fresh.after calls).spans := by
  obtain ⟨-, hfresh⟩ := new_eq_ok.1 hnew
  obtain ⟨htext, hgeneration⟩ := after_constants calls fresh
  have hledger : Ledger (fresh.after calls).spokenResponse (fresh.after calls).spans := by
    apply after_ledger
    rw [hfresh]
    exact .nil
  rw [htext, hfresh] at hledger
  rw [hfresh] at hgeneration
  refine ⟨hfresh ▸ hledger, ?_, ?_, ?_, ?_⟩
  · intro call hresult
    obtain ⟨-, -, ⟨evidence, -, -, heq, -⟩ | ⟨-, hspans, -⟩⟩ :=
      perform_cases call (fresh.after calls)
    · rw [heq] at hresult
      rcases hresult with ⟨error, herror⟩ | hduplicate
      · cases herror
      · cases hduplicate
    · exact hspans
  · intro evidence outcome later hok
    obtain ⟨span, hmem, hsame⟩ := record_ok_mem hok
    rw [record_of_mem (after_spans_subset later _ hmem) hsame]
  · intro evidence hne
    simp only [record, requireGeneration, hfresh, hgeneration]
    rw [if_neg hne]
  · intro call outcome later hcloses hok
    obtain ⟨hclosed, hspans⟩ := perform_closes hcloses hok
    rw [after_closed later hclosed, hspans]

/-- A spoken response, heard up to its comma and then cancelled. -/
def Sample.heard : DeliveryEvidenceV1 := ⟨7, 1, 0, 6, .audio, 480, 20000000⟩

theorem delivered_ledger_heard :
    ∃ fresh, DeliveredSpanTracker.new 7 "Hello, traveller.".toList = .ok fresh ∧
      (fresh.after [.record Sample.heard, .cancel 7]).spans.map (·.text) = ["Hello,".toList] ∧
      Ledger "Hello, traveller.".toList (fresh.after [.record Sample.heard, .cancel 7]).spans :=
  ⟨_, rfl, by decide +kernel, (delivered_ledger rfl _).1⟩

end NpcRuntime.Response
