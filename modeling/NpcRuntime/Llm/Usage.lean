import NpcRuntime.Llm.Grammar

/-!
# The usage of a stream

The usage that a frame reports is read from one object of it (`usageObject`), and `usage_of_read` and
`perform_sees` say that a frame emits the usage of that object and no other. Every sum that the
readers of `providers-llm/src/parser.rs` take saturates but one: `usageAnthropic` adds three counters
without a check, and the sum wraps. `usage_sound_iff` says that this is all that can go wrong.
-/

namespace NpcRuntime.Llm

open Json Text

/-- The object that a frame reports its usage in. -/
def usageObject (fromStr : Text → Option Value) (protocol : ProviderProtocol) (frame : SseFrame) :
    Option Value :=
  (fromStr frame.data).bind fun value =>
    let eventType := strAt value ["type"]
    match protocol with
    | .openAiResponses =>
      match eventType.map ResponsesType.ofName with
      | some .completed | some .incomplete => value.pointer ["response", "usage"]
      | _ => none
    | .anthropicMessages =>
      match eventType.map MessagesType.ofName with
      | some .messageStart => value.pointer ["message", "usage"]
      | some .messageDelta => value.get "usage"
      | _ => none
    | .geminiGenerateContent =>
      if (value.get "error").isSome then none else value.get "usageMetadata"
    | .openAiChatCompletions | .nvidiaNimChat =>
      if frame.data.trim = "[DONE]".toList ∨ (value.get "error").isSome then none
      else value.get "usage"
    | .cohereChat =>
      match eventType.map CohereType.ofName with
      | some .messageEnd => value.pointer ["delta", "usage"]
      | _ => none

/-- The reader of a dialect. -/
def usageAs (protocol : ProviderProtocol) (object : Value) : Option TokenUsage :=
  match protocol with
  | .openAiResponses | .openAiChatCompletions | .nvidiaNimChat => usageOpenai (some object)
  | .anthropicMessages => usageAnthropic (some object) none
  | .geminiGenerateContent => usageGemini (some object)
  | .cohereChat => usageCohere (some object)

/-- The total that the provider reports. Two dialects have none. -/
def ownTotal (protocol : ProviderProtocol) (object : Value) : Option Nat :=
  match protocol with
  | .openAiResponses | .openAiChatCompletions | .nvidiaNimChat =>
    (object.get "total_tokens").bind Value.asU64
  | .geminiGenerateContent => (object.get "totalTokenCount").bind Value.asU64
  | .anthropicMessages | .cohereChat => none

/-- The input counters of an Anthropic message. -/
def inputCounters (object : Value) : List Nat :=
  ["input_tokens", "cache_creation_input_tokens", "cache_read_input_tokens"].map (countAt object)

/-- The total is the reported one or that of the tokens, and every sum saturates. -/
structure SoundUsage (protocol : ProviderProtocol) (object : Value) (usage : TokenUsage) : Prop where
  total : ownTotal protocol object = some usage.totalTokens ∨
    usage.totalTokens = satAdd usage.inputTokens usage.outputTokens
  input : protocol = .anthropicMessages → usage.inputTokens = satSum (inputCounters object)

/-- The input counters of an Anthropic message fit in 64 bits together, or wrap to the largest value,
where a saturating sum stops as well. -/
def CountersFit (object : Value) : Prop :=
  (inputCounters object).sum ≤ u64Max ∨ (inputCounters object).sum % 2 ^ 64 = u64Max

/-! ## The usage of a reading -/

def Reading.usage : Reading → Option TokenUsage
  | .announce _ usage | .pending _ usage | .finish _ _ usage | .ending _ usage | .response _ usage
  | .chunk _ _ usage => usage
  | _ => none

section Read

variable {fromStr : Text → Option Value} {providerId : Text} {frame : SseFrame} {value : Value}
  {reading : Reading}

section

variable (hvalue : fromStr frame.data = some value)

include hvalue

theorem usage_of_readResponses :
    Returns (readResponses providerId value) fun reading => reading.usage =
      (usageObject fromStr .openAiResponses frame).bind (usageAs .openAiResponses) := by
  unfold readResponses
  simp only [usageObject, hvalue, Option.bind_some]
  rw [returns_bind]
  intro eventType htype
  rw [requiredStr_eq_ok.1 htype, Option.map_some]
  cases ResponsesType.ofName eventType with
  | completed | incomplete =>
    cases value.pointer ["response", "usage"] <;> exact returns_ok.2 rfl
  | _ =>
    simp only [returns_bind, returns_ite, returns_ok, Reading.usage, reported, Option.bind_none,
      implies_true, and_self]

theorem usage_of_readAnthropic :
    Returns (readAnthropic providerId value) fun reading => reading.usage =
      (usageObject fromStr .anthropicMessages frame).bind (usageAs .anthropicMessages) := by
  unfold readAnthropic
  simp only [usageObject, hvalue, Option.bind_some]
  rw [returns_bind]
  intro eventType htype
  rw [requiredStr_eq_ok.1 htype, Option.map_some]
  cases MessagesType.ofName eventType with
  | messageStart => cases value.pointer ["message", "usage"] <;> exact returns_ok.2 rfl
  | messageDelta => cases value.get "usage" <;> exact returns_ok.2 rfl
  | _ =>
    simp only [returns_bind, returns_ite, returns_ok, Reading.usage, reported, Option.bind_none,
      implies_true, and_self]

theorem usage_of_readCohere :
    Returns (readCohere providerId value) fun reading => reading.usage =
      (usageObject fromStr .cohereChat frame).bind (usageAs .cohereChat) := by
  unfold readCohere
  simp only [usageObject, hvalue, Option.bind_some]
  rw [returns_bind]
  intro eventType htype
  rw [requiredStr_eq_ok.1 htype, Option.map_some]
  cases CohereType.ofName eventType with
  | messageEnd => cases value.pointer ["delta", "usage"] <;> exact returns_ok.2 rfl
  | contentDelta =>
    rw [returns_bind]
    intro content _
    cases strAt content ["text"] with
    | some text => exact returns_ok.2 rfl
    | none => exact returns_bind.2 fun _ _ => returns_ok.2 rfl
  | _ =>
    simp only [returns_bind, returns_ok, Reading.usage, reported, Option.bind_none, implies_true]

end

/-- **The usage that is read is that of the usage object.** -/
theorem usage_of_read {protocol : ProviderProtocol}
    (h : read providerId fromStr protocol frame = .ok reading) :
    reading.usage = (usageObject fromStr protocol frame).bind (usageAs protocol) := by
  cases protocol with
  | openAiResponses =>
    obtain ⟨value, hvalue, hrest⟩ := bind_eq_ok.1 h
    exact usage_of_readResponses (okOr_eq_ok.1 hvalue) _ hrest
  | anthropicMessages =>
    obtain ⟨value, hvalue, hrest⟩ := bind_eq_ok.1 h
    exact usage_of_readAnthropic (okOr_eq_ok.1 hvalue) _ hrest
  | cohereChat =>
    obtain ⟨value, hvalue, hrest⟩ := bind_eq_ok.1 h
    exact usage_of_readCohere (okOr_eq_ok.1 hvalue) _ hrest
  | geminiGenerateContent =>
    obtain ⟨value, hvalue, hrest⟩ := bind_eq_ok.1 h
    simp only [usageObject, okOr_eq_ok.1 hvalue, Option.bind_some]
    unfold readGemini at hrest
    split_ifs at hrest ⊢
    · cases hrest
      rfl
    · obtain ⟨items, -, hok⟩ := bind_eq_ok.1 hrest
      cases hok
      cases value.get "usageMetadata" <;> rfl
  | openAiChatCompletions | nvidiaNimChat =>
    unfold read readChat at h
    simp only at h
    split_ifs at h with hdone
    · cases h
      cases hvalue : fromStr frame.data <;> simp [usageObject, hvalue, hdone, Reading.usage]
    · obtain ⟨value, hvalue, rfl⟩ := map_eq_ok.1 h
      simp only [usageObject, okOr_eq_ok.1 hvalue, Option.bind_some, hdone, false_or, readChunk]
      split_ifs
      · rfl
      · cases value.get "usage" <;> rfl

end Read

/-! ## Emitting it -/

def LlmEvent.used : LlmEvent → List TokenUsage
  | .usage reported => [reported]
  | _ => []

namespace ProtocolParser

variable {fromStr : Text → Option Value} {parser next : ProtocolParser} {events : List LlmEvent}

/-- **What is performed emits the usage of the reading.** -/
theorem perform_used {reading : Reading}
    (h : parser.perform fromStr reading = .ok (next, events)) :
    events.flatMap LlmEvent.used = reading.usage.toList := by
  have hcourse : ∀ event : LlmEvent, event.isCourse = true → event.used = [] := by
    intro event hevent
    cases event <;> first | rfl | cases hevent
  have hend : ∀ event : LlmEvent, event.terminal = true → event.used = [] := by
    intro event hevent
    cases event <;> first | rfl | cases hevent
  have hused (usage : Option TokenUsage) :
      (usageEvents usage).flatMap LlmEvent.used = usage.toList := by
    cases usage <;> rfl
  have htext (text : Text) (index : Nat) : (textEvents text index).flatMap LlmEvent.used = [] := by
    unfold textEvents
    split_ifs <;> rfl
  rw [perform_sees hcourse (fun _ => hend) h]
  cases reading with
  | announce requestId usage | pending reason usage | finish reason providerReason usage
  | ending reason usage => exact hused usage
  | text text index => exact htext text index
  | response items usage =>
    have hitem : ∀ item : GeminiItem, item.content.flatMap LlmEvent.used = [] := by
      intro item
      cases item <;> first | rfl | exact htext _ _
    simp only [Reading.content, List.flatMap_append, List.flatMap_assoc, hitem, hused]
    simp [Reading.usage]
  | chunk requestId items usage =>
    have hitem : ∀ item : ChatItem, item.content.flatMap LlmEvent.used = [] := by
      intro item
      cases item <;> first | rfl | exact htext _ _
    simp only [Reading.content, List.flatMap_append, List.flatMap_assoc, hitem, hused]
    simp [Reading.usage]
  | start | delta | complete | close | stop | done | failed | ignored => rfl

end ProtocolParser

/-! ## Its totals -/

variable {fromStr : Text → Option Value} {parser : ProtocolParser} {frame : SseFrame}

theorem getD_total (own : Option Nat) (sum : Nat) :
    own = some (own.getD sum) ∨ own.getD sum = sum := by
  cases own with
  | none => exact .inr rfl
  | some total => exact .inl rfl

theorem sum_inputCounters (object : Value) : (inputCounters object).sum =
    countAt object "input_tokens" + countAt object "cache_creation_input_tokens" +
      countAt object "cache_read_input_tokens" := by
  simp [inputCounters, add_assoc]

/-- What `usageAnthropic` makes of the input counters. -/
theorem inputTokens_usageAs {object : Value} {usage : TokenUsage}
    (h : usageAs .anthropicMessages object = some usage) :
    usage.inputTokens = (inputCounters object).sum % 2 ^ 64 := by
  cases h
  rw [sum_inputCounters]

/-- **A reader is sound exactly if the counters it adds fit.** -/
theorem usageAs_sound_iff {protocol : ProviderProtocol} {object : Value} {usage : TokenUsage}
    (h : usageAs protocol object = some usage) : SoundUsage protocol object usage ↔
      (protocol = .anthropicMessages → CountersFit object) := by
  have htotal : ownTotal protocol object = some usage.totalTokens ∨
      usage.totalTokens = satAdd usage.inputTokens usage.outputTokens := by
    cases protocol with
    | openAiResponses | openAiChatCompletions | nvidiaNimChat | geminiGenerateContent =>
      cases h
      exact getD_total _ _
    | cohereChat =>
      obtain ⟨tokens, -, rfl⟩ := Option.map_eq_some_iff.1 h
      exact .inr rfl
    | anthropicMessages =>
      cases h
      exact .inr rfl
  have hinput : protocol = .anthropicMessages →
      (usage.inputTokens = satSum (inputCounters object) ↔ CountersFit object) := by
    rintro rfl
    rw [inputTokens_usageAs h, satSum_eq, CountersFit, u64Max]
    omega
  exact ⟨fun hsound hprotocol => (hinput hprotocol).1 (hsound.input hprotocol),
    fun hfit => ⟨htotal, fun hprotocol => (hinput hprotocol).2 (hfit hprotocol)⟩⟩

/-- **The usage of a stream.** Whatever state the parser is in, a frame emits what its usage object
says, and nothing once the parser has ended. What it emits is sound, unless it is read from
counters of an Anthropic stream that do not fit in 64 bits together. -/
theorem usage_sound_iff {fromStr : Text → Option Value} {parser next : ProtocolParser}
    {frame : SseFrame} {events : List LlmEvent}
    (h : parser.parse fromStr frame = .ok (next, events)) :
    events.flatMap LlmEvent.used = (if parser.terminal then [] else
        ((usageObject fromStr parser.protocol frame).bind (usageAs parser.protocol)).toList) ∧
      ∀ usage ∈ events.flatMap LlmEvent.used, ∃ object,
        usageObject fromStr parser.protocol frame = some object ∧
          (SoundUsage parser.protocol object usage ↔
            (parser.protocol = .anthropicMessages → CountersFit object)) := by
  have hused : events.flatMap LlmEvent.used = (if parser.terminal then [] else
      ((usageObject fromStr parser.protocol frame).bind (usageAs parser.protocol)).toList) := by
    rcases ProtocolParser.parse_eq_ok.1 h with
      ⟨hterminal, -, rfl⟩ | ⟨hterminal, reading, middle, hread, hperform, -⟩
    · rw [hterminal, if_pos rfl, List.flatMap_nil]
    · rw [hterminal, if_neg Bool.false_ne_true, ProtocolParser.perform_used hperform,
        usage_of_read hread]
  refine ⟨hused, ?_⟩
  intro usage husage
  rw [hused] at husage
  split_ifs at husage
  · cases husage
  · obtain ⟨object, hobject, hread⟩ := Option.bind_eq_some_iff.1 (Option.mem_toList.1 husage)
    exact ⟨object, hobject, usageAs_sound_iff hread⟩

/-! ### Counters that wrap -/

/-- The start of an Anthropic message, with as many input tokens as a counter can hold and one more
that was cached. -/
def fullCounterFrame : SseFrame where
  event := some "message_start".toList
  data := ("\x7b\"type\":\"message_start\",\"message\":\x7b\"usage\":" ++
    "\x7b\"input_tokens\":18446744073709551615,\"cache_read_input_tokens\":1\x7d\x7d\x7d").toList

/-- The usage of it. -/
def fullCounterUsage : Value :=
  .object [("input_tokens".toList, .number (.posInt u64Max)),
    ("cache_read_input_tokens".toList, .number (.posInt 1))]

def fullCounterJson (data : Text) : Option Value :=
  if data = fullCounterFrame.data then
    some (.object [("type".toList, .string "message_start".toList),
      ("message".toList, .object [("usage".toList, fullCounterUsage)])])
  else none

/-- The first frame of a stream can report no tokens at all. -/
theorem usage_sound_iff_fullCounter : ∃ next events,
    (ProtocolParser.new "anthropic".toList .anthropicMessages).parse fullCounterJson
      fullCounterFrame = .ok (next, events) ∧
    events.flatMap LlmEvent.used = [⟨0, 0, 1, 0⟩] ∧
    ¬ SoundUsage .anthropicMessages fullCounterUsage ⟨0, 0, 1, 0⟩ := by
  have hok : ((ProtocolParser.new "anthropic".toList .anthropicMessages).parse fullCounterJson
      fullCounterFrame).isOk = true := by decide +kernel
  obtain ⟨⟨next, events⟩, hparse⟩ := isOk_eq_true.1 hok
  have hobject : usageObject fullCounterJson .anthropicMessages fullCounterFrame =
      some fullCounterUsage := by decide +kernel
  have hused : events.flatMap LlmEvent.used = [⟨0, 0, 1, 0⟩] :=
    (usage_sound_iff hparse).1.trans (by decide +kernel)
  obtain ⟨object, hread, hsound⟩ := (usage_sound_iff hparse).2 ⟨0, 0, 1, 0⟩ (by simp [hused])
  cases hobject.symm.trans hread
  refine ⟨next, events, hparse, hused, fun h => ?_⟩
  have hfit := hsound.1 h rfl
  revert hfit
  unfold CountersFit
  decide +kernel

end NpcRuntime.Llm
