import NpcRuntime.Diagnostics.Types
import NpcRuntime.Lib.Double
import NpcRuntime.Lib.TextMap

/-!
# Diagnostic events

`diagnostics/src/event.rs`, with the derived conversions to and from a JSON value. A `double` is its
exact value where it is finite.
-/

namespace NpcRuntime.Diagnostics

open Text Json

/-! ## Enumerations -/

inductive Severity where
  | trace | debug | info | warn | error
deriving DecidableEq

inductive DiagnosticVerbosity where
  | essential | standard | verbose
deriving DecidableEq

def DiagnosticVerbosity.permits : DiagnosticVerbosity → Severity → Bool
  | .essential, severity => severity = .warn || severity = .error
  | .standard, severity => severity = .info || severity = .warn || severity = .error
  | .verbose, _ => true

inductive DiagnosticStatus where
  | ok | degraded | failed | skipped
deriving DecidableEq

inductive ClockSource where
  | processMonotonic | operatingSystemMonotonic | providerReported | fixtureClock
deriving DecidableEq

inductive ObservationProvenance where
  | measured | unmeasured | fixture
deriving DecidableEq

/-- The names of the variants of an enumeration, as `serde` writes them. -/
class Variants (α : Type) where
  names : List (String × α)

instance : Variants Severity where
  names := [("trace", .trace), ("debug", .debug), ("info", .info), ("warn", .warn),
    ("error", .error)]

instance : Variants DiagnosticStatus where
  names := [("ok", .ok), ("degraded", .degraded), ("failed", .failed), ("skipped", .skipped)]

instance : Variants ClockSource where
  names := [("process_monotonic", .processMonotonic),
    ("operating_system_monotonic", .operatingSystemMonotonic),
    ("provider_reported", .providerReported), ("fixture_clock", .fixtureClock)]

instance : Variants ObservationProvenance where
  names := [("measured", .measured), ("unmeasured", .unmeasured), ("fixture", .fixture)]

section Values

variable {α : Type}

def variantValue [DecidableEq α] [Variants α] (a : α) : Value :=
  match (Variants.names (α := α)).find? fun name => name.2 = a with
  | some name => .string name.1.toList
  | none => .null

def optionValue (toValue : α → Value) : Option α → Value
  | some a => toValue a
  | none => .null

def u64Value (n : UInt64) : Value := .number (.posInt n.toNat)

def f64Value : F64 → Value
  | .finite q => .number (.float q)
  | .notFinite => .null

def mapValue (toValue : α → Value) (m : TextMap α) : Value :=
  .object (m.entries.map fun entry => (entry.1, toValue entry.2))

def decodeVariant [Variants α] : Decode α := Decode.unitVariant Variants.names

def decodeU64 : Decode UInt64 := fun value => (Decode.u64 value).map UInt64.ofNat

def decodeF64 : Decode F64
  | .number (.posInt n) => .ok (.finite (round64 n))
  | .number (.negInt n) => .ok (.finite (round64 (-n)))
  | .number (.float q) => .ok (.finite q)
  | _ => .error .invalidType

def decodeTextMap (d : Decode α) : Decode (TextMap α) := fun value =>
  (Decode.map d value).map TextMap.ofList

end Values

/-! ## Timing -/

def F64.isFinite : F64 → Bool
  | .finite _ => true
  | .notFinite => false

/-- `value < 0.0`; false where the value is not finite, since it is checked before. -/
def F64.isNegative : F64 → Bool
  | .finite q => q < 0
  | .notFinite => false

/-- `(a - b).abs() > 0.001`. -/
def F64.differ : F64 → F64 → Bool
  | .finite a, .finite b => |round64 (a - b)| > round64 (1 / 1000)
  | _, _ => true

structure TimingEvidence where
  clockSource : ClockSource
  provenance : ObservationProvenance
  startedMonotonicNs : UInt64
  completedMonotonicNs : UInt64
  durationMs : F64
deriving DecidableEq

def TimingEvidence.validate (timing : TimingEvidence) : Except String Unit :=
  if timing.provenance = .unmeasured then .error "timing evidence cannot be unmeasured"
  else if timing.clockSource = .fixtureClock ∧ timing.provenance ≠ .fixture then
    .error "fixture clocks require fixture provenance"
  else if timing.clockSource ≠ .fixtureClock ∧ timing.provenance = .fixture then
    .error "fixture provenance requires a fixture clock"
  else if timing.completedMonotonicNs < timing.startedMonotonicNs ∨
      ¬ F64.isFinite timing.durationMs ∨ F64.isNegative timing.durationMs then
    .error "timing evidence is invalid"
  else .ok ()

/-- An object lists its members in the order of their names. -/
def TimingEvidence.toValue (timing : TimingEvidence) : Value :=
  .object [("clockSource".toList, variantValue timing.clockSource),
    ("completedMonotonicNs".toList, u64Value timing.completedMonotonicNs),
    ("durationMs".toList, f64Value timing.durationMs),
    ("provenance".toList, variantValue timing.provenance),
    ("startedMonotonicNs".toList, u64Value timing.startedMonotonicNs)]

def decodeTiming : Decode TimingEvidence := fun value => do
  let fields ← Fields.ofValueLenient ["clockSource", "provenance", "startedMonotonicNs",
    "completedMonotonicNs", "durationMs"] value
  let clockSource ← fields.required 0 "clockSource" decodeVariant
  let provenance ← fields.required 1 "provenance" decodeVariant
  let startedMonotonicNs ← fields.required 2 "startedMonotonicNs" decodeU64
  let completedMonotonicNs ← fields.required 3 "completedMonotonicNs" decodeU64
  let durationMs ← fields.required 4 "durationMs" decodeF64
  return { clockSource, provenance, startedMonotonicNs, completedMonotonicNs, durationMs }

/-! ## Events -/

structure DiagnosticEvent where
  monotonicNs : UInt64
  component : Text
  eventName : Text
  severity : Severity
  status : DiagnosticStatus
  provenance : ObservationProvenance
  traceId : Option Text
  spanId : Option Text
  durationMs : Option F64
  timing : Option TimingEvidence
  errorCode : Option Text
  providerId : Option Text
  modelId : Option Text
  numeric : TextMap F64
  labels : TextMap Text
deriving DecidableEq

def forbiddenInLabelKeys : List String :=
  ["prompt", "response", "transcript", "authorization", "token", "secret", "password", "audio",
    "voice", "frame", "image", "pixel", "screenshot", "webcam", "memory_text", "conversation",
    "username", "email", "ip_address", "file_path", "home_path"]

def isForbiddenLabelKey (key : Text) : Bool :=
  forbiddenInLabelKeys.any fun forbidden => forbidden.toList <:+: toAsciiLowercase key

namespace DiagnosticEvent

/-- The optional identifiers of an event. -/
def identifiers (event : DiagnosticEvent) : List Text :=
  [event.traceId, event.spanId, event.errorCode, event.providerId, event.modelId].filterMap id

def validateTiming (event : DiagnosticEvent) : Except String Unit :=
  match event.timing with
  | none => .ok ()
  | some timing => do
    timing.validate
    if event.provenance ≠ timing.provenance then
      throw "event and timing provenance do not match"
    if event.durationMs.any fun duration => F64.differ duration timing.durationMs then
      throw "event duration and timing evidence do not match"

def validate (event : DiagnosticEvent) : Except String Unit := do
  if event.component = [] ∨ event.eventName = [] then
    throw "component and event_name are required"
  if ¬ isIdentifier event.component 80 ∨ ¬ isIdentifier event.eventName 120 then
    throw "event identity exceeds length limit"
  if event.numeric.entries.length > 32 ∨ event.labels.entries.length > 24 then
    throw "event attribute count exceeds limit"
  if event.numeric.entries.any fun entry =>
      entry.1 = [] || utf8Len entry.1 > 64 || !F64.isFinite entry.2 then
    throw "event numeric attribute is unsafe or invalid"
  if event.labels.entries.any fun entry =>
      entry.1 = [] || utf8Len entry.1 > 64 || utf8Len entry.2 > 256 || entry.2.any isControl ||
        isForbiddenLabelKey entry.1 then
    throw "event label is unsafe or too large"
  if event.durationMs.any fun value => !F64.isFinite value || F64.isNegative value then
    throw "event duration is invalid"
  event.validateTiming
  if event.durationMs.isSome ∧ event.timing.isNone then
    throw "duration requires timing provenance"
  if event.identifiers.any fun value => value = [] || utf8Len value > 200 || value.any isControl then
    throw "event identifier is unsafe or too large"

def shouldRecord (event : DiagnosticEvent) (verbosity : DiagnosticVerbosity) : Bool :=
  verbosity.permits event.severity

def toValue (event : DiagnosticEvent) : Value :=
  .object [("component".toList, .string event.component),
    ("durationMs".toList, optionValue f64Value event.durationMs),
    ("errorCode".toList, optionValue .string event.errorCode),
    ("eventName".toList, .string event.eventName),
    ("labels".toList, mapValue .string event.labels),
    ("modelId".toList, optionValue .string event.modelId),
    ("monotonicNs".toList, u64Value event.monotonicNs),
    ("numeric".toList, mapValue f64Value event.numeric),
    ("provenance".toList, variantValue event.provenance),
    ("providerId".toList, optionValue .string event.providerId),
    ("severity".toList, variantValue event.severity),
    ("spanId".toList, optionValue .string event.spanId),
    ("status".toList, variantValue event.status),
    ("timing".toList, optionValue TimingEvidence.toValue event.timing),
    ("traceId".toList, optionValue .string event.traceId)]

end DiagnosticEvent

def decodeEvent : Decode DiagnosticEvent := fun value => do
  let fields ← Fields.ofValueLenient ["monotonicNs", "component", "eventName", "severity", "status",
    "provenance", "traceId", "spanId", "durationMs", "timing", "errorCode", "providerId", "modelId",
    "numeric", "labels"] value
  let monotonicNs ← fields.required 0 "monotonicNs" decodeU64
  let component ← fields.required 1 "component" Decode.string
  let eventName ← fields.required 2 "eventName" Decode.string
  let severity ← fields.required 3 "severity" decodeVariant
  let status ← fields.required 4 "status" decodeVariant
  let provenance ← fields.required 5 "provenance" decodeVariant
  let traceId ← fields.optional 6 "traceId" Decode.string
  let spanId ← fields.optional 7 "spanId" Decode.string
  let durationMs ← fields.optional 8 "durationMs" decodeF64
  let timing ← fields.optional 9 "timing" decodeTiming
  let errorCode ← fields.optional 10 "errorCode" Decode.string
  let providerId ← fields.optional 11 "providerId" Decode.string
  let modelId ← fields.optional 12 "modelId" Decode.string
  let numeric ← fields.required 13 "numeric" (decodeTextMap decodeF64)
  let labels ← fields.required 14 "labels" (decodeTextMap Decode.string)
  return {
    monotonicNs, component, eventName, severity, status, provenance, traceId, spanId
    durationMs, timing, errorCode, providerId, modelId, numeric, labels }

end NpcRuntime.Diagnostics
