import Mathlib.Data.List.MinMax
import Mathlib.Data.List.Sort
import NpcRuntime.Packs.Measurement

/-!
# The work scheduler

`WorkSchedulerV1` of `model-manager/src/resource_governor.rs`: a bounded queue of work for the local
models, with a clock for the address of the current capture.

The pending map is the list of its values in the order of their work ids, which are its keys. A loop
over its ids that removes the items with a reason and reports each of them is one function,
`sweep`, and the loops of the source are its uses.
-/

namespace NpcRuntime.Packs

open Text

inductive WorkKindV1 where
  | lipSync
  | speechRecognition
  | speechSynthesis
  | languageModel
  | vision
  | embedding
deriving DecidableEq

namespace WorkKindV1

def priority : WorkKindV1 → Nat
  | lipSync => 6
  | speechRecognition => 5
  | speechSynthesis => 4
  | languageModel => 3
  | vision => 2
  | embedding => 1

def isInteractive (kind : WorkKindV1) : Bool :=
  kind == lipSync || kind == speechRecognition || kind == speechSynthesis || kind == languageModel

def isVisual (kind : WorkKindV1) : Bool := kind == lipSync || kind == vision

end WorkKindV1

structure VisualWorkAddressV1 where
  generationId : Nat
  frameId : Nat
deriving DecidableEq

structure WorkItemV1 where
  workId : Text
  kind : WorkKindV1
  submittedMonotonicMillis : Nat
  deadlineMonotonicMillis : Nat
  visual : Option VisualWorkAddressV1
deriving DecidableEq

inductive CancellationReasonV1 where
  | preemptedByInteractive
  | supersededVisualWork
  | staleGeneration
  | staleFrame
  | deadlineExpired
  | queuePressure
  | queueCapacity
  | cancelledByNativeRuntime
  | admissionRevoked
deriving DecidableEq

structure WorkCancellationV1 where
  workId : Text
  reason : CancellationReasonV1
deriving DecidableEq

structure WorkSubmitResultV1 where
  accepted : Bool
  cancellations : List WorkCancellationV1
deriving DecidableEq

inductive WorkSchedulerError where
  | invalidQueuePolicy
  | invalidWorkId
  | invalidDeadline
  | invalidVisualAddress
  | duplicateWorkId
  | visualClockWentBackward
  | sequenceOverflow
deriving DecidableEq

structure WorkQueuePolicyV1 where
  maximumPending : Nat := 256
deriving DecidableEq

def WorkQueuePolicyV1.validate (policy : WorkQueuePolicyV1) : Except WorkSchedulerError Unit :=
  require (policy.maximumPending != 0 && decide (policy.maximumPending ≤ 65536)) .invalidQueuePolicy

inductive ResourcePressureLevelV1 where
  | normal
  | elevated
  | critical
deriving DecidableEq

structure ScheduledWorkV1 where
  sequence : Nat
  item : WorkItemV1
deriving DecidableEq

def ScheduledWorkV1.workId (work : ScheduledWorkV1) : Text := work.item.workId

structure WorkSchedulerV1 where
  policy : WorkQueuePolicyV1
  sequence : Nat := 0
  pending : List ScheduledWorkV1 := []
  visualGenerationId : Nat := 0
  visualFrameId : Nat := 0
deriving DecidableEq

def validateWorkItem (item : WorkItemV1) (now : Nat) : Except WorkSchedulerError Unit := do
  require (isToken item.workId 8 128) .invalidWorkId
  require (item.submittedMonotonicMillis != 0 && decide (item.submittedMonotonicMillis ≤ now) &&
      decide (now < item.deadlineMonotonicMillis) &&
      decide (item.submittedMonotonicMillis ≤ item.deadlineMonotonicMillis)) .invalidDeadline
  require (item.kind.isVisual == item.visual.isSome) .invalidVisualAddress
  require (item.visual.all fun visual => visual.generationId != 0 && visual.frameId != 0)
    .invalidVisualAddress

namespace WorkSchedulerV1

def withPolicy (policy : WorkQueuePolicyV1) : Except WorkSchedulerError WorkSchedulerV1 := do
  policy.validate
  return { policy }

/-- Remove the entry with this key. -/
def remove (s : WorkSchedulerV1) (workId : Text) : WorkSchedulerV1 :=
  { s with pending := s.pending.filter fun work => work.workId != workId }

/-- Visit all entries, remove those with a reason and report them. -/
def sweep (s : WorkSchedulerV1) (reason : ScheduledWorkV1 → Option CancellationReasonV1) :
    WorkSchedulerV1 × List WorkCancellationV1 :=
  ({ s with pending := s.pending.filter fun work => (reason work).isNone },
    s.pending.filterMap fun work => (reason work).map (WorkCancellationV1.mk work.workId))

/-- Why work with this address cannot be shown any more. -/
def stale (s : WorkSchedulerV1) : Option VisualWorkAddressV1 → Option CancellationReasonV1
  | none => none
  | some visual =>
    if visual.generationId < s.visualGenerationId then some .staleGeneration
    else if visual.generationId = s.visualGenerationId ∧ visual.frameId < s.visualFrameId then
      some .staleFrame
    else none

/-- An item with an address moves the clock to it. -/
def moveClock (s : WorkSchedulerV1) : Option VisualWorkAddressV1 → WorkSchedulerV1
  | none => s
  | some visual =>
    { s with visualGenerationId := visual.generationId, visualFrameId := visual.frameId }

/-- Why pending work has to make way for an item. -/
def displaced (s : WorkSchedulerV1) (item : WorkItemV1) (existing : ScheduledWorkV1) :
    Option CancellationReasonV1 :=
  (s.stale existing.item.visual).or <|
    (if item.kind.isInteractive ∧
        (existing.item.kind = .embedding ∨ existing.item.kind = .vision) then
      some .preemptedByInteractive
    else none).or <|
    if item.kind.isVisual ∧ existing.item.kind.isVisual ∧ existing.item.kind = item.kind then
      some .supersededVisualWork
    else none

/-- Number the item and insert it. -/
def enqueue (s : WorkSchedulerV1) (item : WorkItemV1) (cancellations : List WorkCancellationV1) :
    Except WorkSchedulerError WorkSubmitResultV1 × WorkSchedulerV1 :=
  if s.sequence + 1 ≤ u64Max then
    (.ok ⟨true, cancellations⟩,
      { s with
        sequence := s.sequence + 1
        pending := s.pending.orderedInsert (fun a b => a.workId ≤ b.workId)
          ⟨s.sequence + 1, item⟩ })
  else (.error .sequenceOverflow, s)

/-- The lowest entry of a full queue. -/
def lowest (s : WorkSchedulerV1) : Option ScheduledWorkV1 :=
  s.pending.argmin fun work => toLex (work.item.kind.priority, work.sequence)

/-- The item is in the queue's order: queue it, at capacity in the place of the lowest entry. -/
def admitItem (s : WorkSchedulerV1) (item : WorkItemV1) (cancellations : List WorkCancellationV1) :
    Except WorkSchedulerError WorkSubmitResultV1 × WorkSchedulerV1 :=
  if s.policy.maximumPending ≤ s.pending.length then
    match s.lowest with
    | some lowest =>
      if lowest.item.kind.priority < item.kind.priority then
        (s.remove lowest.workId).enqueue item (cancellations ++ [⟨lowest.workId, .queueCapacity⟩])
      else (.ok ⟨false, cancellations ++ [⟨item.workId, .queueCapacity⟩]⟩, s)
    -- an empty queue is not full
    | none => s.enqueue item cancellations
  else s.enqueue item cancellations

local instance lawfulBEqWorkId : LawfulBEq Text := inferInstance

def submit (s : WorkSchedulerV1) (item : WorkItemV1) (now : Nat) :
    Except WorkSchedulerError WorkSubmitResultV1 × WorkSchedulerV1 :=
  match validateWorkItem item now with
  | .error error => (.error error, s)
  | .ok () =>
    if item.workId ∈ s.pending.map ScheduledWorkV1.workId then (.error .duplicateWorkId, s)
    else
      match s.stale item.visual with
      | some reason => (.ok ⟨false, [⟨item.workId, reason⟩]⟩, s)
      | none =>
        let s := s.moveClock item.visual
        let (swept, cancellations) := s.sweep (s.displaced item)
        swept.admitItem item cancellations

def advanceVisualClock (s : WorkSchedulerV1) (generationId frameId now : Nat) :
    Except WorkSchedulerError (List WorkCancellationV1) × WorkSchedulerV1 :=
  if generationId < s.visualGenerationId ∨
      (generationId = s.visualGenerationId ∧ frameId < s.visualFrameId) then
    (.error .visualClockWentBackward, s)
  else
    let s := { s with visualGenerationId := generationId, visualFrameId := frameId }
    let (swept, cancellations) := s.sweep fun work =>
      if work.item.deadlineMonotonicMillis ≤ now then some .deadlineExpired
      else s.stale work.item.visual
    (.ok cancellations, swept)

def dropExpired (s : WorkSchedulerV1) (now : Nat) : WorkSchedulerV1 :=
  { s with
    pending := s.pending.filter fun work => decide (now < work.item.deadlineMonotonicMillis) }

/-- Take an entry out. -/
def take (s : WorkSchedulerV1) (next : Option ScheduledWorkV1) :
    Option WorkItemV1 × WorkSchedulerV1 :=
  match next with
  | some work => (some work.item, s.remove work.workId)
  | none => (none, s)

/-- `max_by_key` returns the last of several maximal entries. -/
def popNext (s : WorkSchedulerV1) (now : Nat) : Option WorkItemV1 × WorkSchedulerV1 :=
  let s := s.dropExpired now
  s.take (s.pending.reverse.argmax fun work =>
    toLex (work.item.kind.priority, OrderDual.toDual work.sequence))

def popNextKind (s : WorkSchedulerV1) (kind : WorkKindV1) (now : Nat) :
    Option WorkItemV1 × WorkSchedulerV1 :=
  let s := s.dropExpired now
  s.take ((s.pending.filter fun work => decide (work.item.kind = kind)).argmin
    ScheduledWorkV1.sequence)

def cancelKind (s : WorkSchedulerV1) (workId : Text) (kind : WorkKindV1)
    (reason : CancellationReasonV1) : Option WorkCancellationV1 × WorkSchedulerV1 :=
  if s.pending.any fun work => work.workId == workId && decide (work.item.kind = kind) then
    (some ⟨workId, reason⟩, s.remove workId)
  else (none, s)

def cancelAllKind (s : WorkSchedulerV1) (kind : WorkKindV1) (reason : CancellationReasonV1) :
    List WorkCancellationV1 × WorkSchedulerV1 :=
  let (swept, cancellations) := s.sweep fun work =>
    if work.item.kind = kind then some reason else none
  (cancellations, swept)

def cancelAll (s : WorkSchedulerV1) (reason : CancellationReasonV1) :
    List WorkCancellationV1 × WorkSchedulerV1 :=
  let (swept, cancellations) := s.sweep fun _ => some reason
  (cancellations, swept)

/-- The kinds that are given up at a pressure level. -/
def shedForPressure (level : ResourcePressureLevelV1) (kind : WorkKindV1) : Bool :=
  match level with
  | .normal => false
  | .elevated => kind == .embedding || kind == .vision
  | .critical => kind == .embedding || kind == .vision || kind == .speechSynthesis

def applyPressure (s : WorkSchedulerV1) (level : ResourcePressureLevelV1) (now : Nat) :
    List WorkCancellationV1 × WorkSchedulerV1 :=
  let (swept, cancellations) := s.sweep fun work =>
    if work.item.deadlineMonotonicMillis ≤ now then some .deadlineExpired
    else (s.stale work.item.visual).or <|
      if shedForPressure level work.item.kind then some .queuePressure else none
  (cancellations, swept)

end WorkSchedulerV1

/-! ## Runs -/

/-- A call of the scheduler. -/
inductive WorkCall where
  | submit (item : WorkItemV1) (now : Nat)
  | advanceVisualClock (generationId frameId now : Nat)
  | popNext (now : Nat)
  | popNextKind (kind : WorkKindV1) (now : Nat)
  | cancelKind (workId : Text) (kind : WorkKindV1) (reason : CancellationReasonV1)
  | cancelAllKind (kind : WorkKindV1) (reason : CancellationReasonV1)
  | cancelAll (reason : CancellationReasonV1)
  | applyPressure (level : ResourcePressureLevelV1) (now : Nat)
deriving DecidableEq

/-- The state a call leaves. -/
def workStep (call : WorkCall) (s : WorkSchedulerV1) : WorkSchedulerV1 :=
  match call with
  | .submit item now => (s.submit item now).2
  | .advanceVisualClock generationId frameId now =>
    (s.advanceVisualClock generationId frameId now).2
  | .popNext now => (s.popNext now).2
  | .popNextKind kind now => (s.popNextKind kind now).2
  | .cancelKind workId kind reason => (s.cancelKind workId kind reason).2
  | .cancelAllKind kind reason => (s.cancelAllKind kind reason).2
  | .cancelAll reason => (s.cancelAll reason).2
  | .applyPressure level now => (s.applyPressure level now).2

end NpcRuntime.Packs
