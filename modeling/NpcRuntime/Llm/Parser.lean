import NpcRuntime.Lib.Emit
import NpcRuntime.Lib.Table
import NpcRuntime.Llm.Types

/-!
# The stream parser

`ProtocolParser` of `providers-llm/src/parser.rs`: one frame of a provider's stream at a time, in
the provider's dialect, to events. Three dialects name the type of a frame, Gemini and the chat
completions put everything into one kind of frame. Tool calls are accumulated by index until they
are complete.

The JSON parser is a parameter. After an error the parser is dropped, so an error has no state.
`usize` has 64 bits.
-/

namespace NpcRuntime.Llm

open Json Text

structure ToolAccumulator where
  id : Text
  name : Text
  arguments : Text
deriving DecidableEq

structure ProtocolParser where
  providerId : Text
  protocol : ProviderProtocol
  tools : Table Nat ToolAccumulator
  pendingFinish : Option (FinishReason × Text)
  started : Bool
  terminal : Bool

/-- The parser after a frame, and its events. -/
abbrev Parsed := Except ProviderError (ProtocolParser × List LlmEvent)

/-! ## Fields -/

def requiredStr (value : Value) (key : String) (providerId : Text) : Except ProviderError Text :=
  okOr ((value.get key).bind Value.asStr)
    (.protocol providerId "provider event is missing a required field")

def requiredUsize (value : Value) (key : String) (providerId : Text) :
    Except ProviderError Nat := do
  let raw ← okOr ((value.get key).bind Value.asU64)
    (.protocol providerId "provider event is missing a required index")
  require (raw ≤ u64Max) (.protocol providerId "provider event index is out of range")
  .ok raw

/-- `pointer(path).and_then(Value::as_str)`. -/
def strAt (value : Value) (path : List String) : Option Text :=
  (value.pointer path).bind Value.asStr

def bounded (value : Text) : Text := value.take 128

def mapFinish (reason : Text) : FinishReason :=
  let lower := reason.map Char.toLower
  let among (names : List String) : Bool := names.any fun name => name.toList = lower
  if among ["stop", "end_turn", "complete", "completed"] then .endTurn
  else if among ["length", "max_tokens", "max_output_tokens"] then .maximumTokens
  else if among ["tool_call", "tool_calls", "tool_use"] then .toolUse
  else if among ["stop_sequence"] then .stopSequence
  else if among ["safety", "content_filter", "recitation", "blocklist", "prohibited_content"] then
    .safety
  else if among ["cancelled"] then .cancelled
  else .other (bounded lower)

/-! ## Usage -/

/-- `get(key).and_then(Value::as_u64).unwrap_or(0)`. -/
def countAt (value : Value) (key : String) : Nat := ((value.get key).bind Value.asU64).getD 0

def usageOpenai (value : Option Value) : Option TokenUsage :=
  value.map fun value =>
    let inputTokens := (((value.get "input_tokens").or (value.get "prompt_tokens")).bind
      Value.asU64).getD 0
    let outputTokens := (((value.get "output_tokens").or (value.get "completion_tokens")).bind
      Value.asU64).getD 0
    { inputTokens := inputTokens
      outputTokens := outputTokens
      cachedInputTokens := (((value.pointer ["input_tokens_details", "cached_tokens"]).or
        (value.pointer ["prompt_tokens_details", "cached_tokens"])).bind Value.asU64).getD 0
      totalTokens := ((value.get "total_tokens").bind Value.asU64).getD
        (satAdd inputTokens outputTokens) }

/-- The input tokens are added without a check, and wrap. -/
def usageAnthropic (start delta : Option Value) : Option TokenUsage :=
  (start.or delta).map fun value =>
    let inputTokens := (countAt value "input_tokens" + countAt value "cache_creation_input_tokens" +
      countAt value "cache_read_input_tokens") % 2 ^ 64
    let outputTokens := countAt value "output_tokens"
    { inputTokens := inputTokens
      outputTokens := outputTokens
      cachedInputTokens := countAt value "cache_read_input_tokens"
      totalTokens := satAdd inputTokens outputTokens }

def usageGemini (value : Option Value) : Option TokenUsage :=
  value.map fun value =>
    let inputTokens := countAt value "promptTokenCount"
    let outputTokens := countAt value "candidatesTokenCount"
    { inputTokens := inputTokens
      outputTokens := outputTokens
      cachedInputTokens := countAt value "cachedContentTokenCount"
      totalTokens := ((value.get "totalTokenCount").bind Value.asU64).getD
        (satAdd inputTokens outputTokens) }

/-- A count, also one that is written as a float. -/
def numericU64 : Option Value → Nat
  | some (.number (.posInt n)) => n
  | some (.number (.float q)) => if 0 ≤ q ∧ q.den = 1 then min q.num.toNat u64Max else 0
  | _ => 0

def usageCohere (value : Option Value) : Option TokenUsage :=
  (value.bind fun value => (value.get "tokens").or (value.get "billed_units")).map fun tokens =>
    let inputTokens := numericU64 (tokens.get "input_tokens")
    let outputTokens := numericU64 (tokens.get "output_tokens")
    ⟨inputTokens, outputTokens, 0, satAdd inputTokens outputTokens⟩

/-! ## Types of frames -/

/-- The type of a name, in a table. -/
def typeOf {α : Type} (types : List (String × α)) (unknown : α) (name : Text) : α :=
  ((types.find? fun entry => entry.1.toList = name).map Prod.snd).getD unknown

inductive ResponsesType where
  | created | outputTextDelta | outputItemAdded | argumentsDelta | outputItemDone | completed
  | incomplete | failed | cancelled | unknown
deriving DecidableEq

def ResponsesType.ofName : Text → ResponsesType :=
  typeOf
    [("response.created", .created),
      ("response.output_text.delta", .outputTextDelta),
      ("response.output_item.added", .outputItemAdded),
      ("response.function_call_arguments.delta", .argumentsDelta),
      ("response.output_item.done", .outputItemDone),
      ("response.completed", .completed),
      ("response.incomplete", .incomplete),
      ("response.failed", .failed),
      ("error", .failed),
      ("response.cancelled", .cancelled)] .unknown

inductive MessagesType where
  | messageStart | contentBlockStart | contentBlockDelta | contentBlockStop | messageDelta
  | messageStop | error | unknown
deriving DecidableEq

def MessagesType.ofName : Text → MessagesType :=
  typeOf
    [("message_start", .messageStart),
      ("content_block_start", .contentBlockStart),
      ("content_block_delta", .contentBlockDelta),
      ("content_block_stop", .contentBlockStop),
      ("message_delta", .messageDelta),
      ("message_stop", .messageStop),
      ("error", .error)] .unknown

inductive CohereType where
  | messageStart | contentDelta | toolCallStart | toolCallDelta | toolCallEnd | messageEnd | error
  | unknown
deriving DecidableEq

def CohereType.ofName : Text → CohereType :=
  typeOf
    [("message-start", .messageStart),
      ("content-delta", .contentDelta),
      ("tool-call-start", .toolCallStart),
      ("tool-call-delta", .toolCallDelta),
      ("tool-call-end", .toolCallEnd),
      ("message-end", .messageEnd),
      ("error", .error)] .unknown

/-! ## Parts of events -/

def usageEvents (usage : Option TokenUsage) : List LlmEvent := usage.toList.map .usage

/-- A text that is empty is no event. -/
def textEvents (text : Text) (contentIndex : Nat) : List LlmEvent :=
  if text.isEmpty then [] else [.textDelta text contentIndex]

def streamingError (providerId : Text) : LlmEvent :=
  .error (.protocol providerId "provider reported a streaming error")

def decimal (n : Nat) : Text := Nat.toDigits 10 n

/-- The value of accumulated arguments. -/
def toolArguments (fromStr : Text → Option Value) (arguments : Text) : Option Value :=
  if arguments.trim.isEmpty then some (.object []) else fromStr arguments

/-- Reasons to finish that report a failure. -/
def isFailure (reason : Text) : Bool :=
  reason = "TIMEOUT".toList || "ERROR".toList.isPrefixOf reason

/-- The event at the end of a message. -/
def cohereEnding (providerId reason : Text) : LlmEvent :=
  if isFailure reason then
    .error (.new providerId (if reason = "TIMEOUT".toList then .timeout else .unavailable)
      "provider reported a terminal generation error")
  else .finished (mapFinish reason) (bounded reason)

/-! ## Tools -/

namespace ProtocolParser

def new (providerId : Text) (protocol : ProviderProtocol) : ProtocolParser :=
  ⟨providerId, protocol, ∅, none, false, false⟩

variable (fromStr : Text → Option Value) (parser : ProtocolParser)

def json (data : Text) : Except ProviderError Value :=
  okOr (fromStr data) (.protocol parser.providerId "provider emitted malformed JSON")

def ensureStarted : ProtocolParser × List LlmEvent :=
  if parser.started then (parser, []) else ({ parser with started := true }, [.started none])

def startTool (index : Nat) (id name : Text) : ProtocolParser × List LlmEvent :=
  ({ parser with
      tools := match parser.tools.lookup index with
        | some _ => parser.tools
        | none => parser.tools.insert index ⟨id, name, []⟩ },
    [.toolCallStarted index id name])

/-- `get_mut`, then `push_str`. -/
def pushArguments (index : Nat) (delta : Text) : ProtocolParser :=
  { parser with
    tools := parser.tools.modify index fun tool =>
      { tool with arguments := tool.arguments ++ delta } }

/-- A delta of a tool that was started. -/
def toolDelta (index : Nat) (delta : Text) : Parsed := do
  let _ ← okOr (parser.tools.lookup index)
    (.protocol parser.providerId "tool delta arrived before tool start")
  .ok (parser.pushArguments index delta, [.toolCallDelta index delta])

def completeTool (index : Nat) : Parsed := do
  let tool ← okOr (parser.tools.lookup index)
    (.protocol parser.providerId "tool completion arrived before tool start")
  let arguments ← okOr (toolArguments fromStr tool.arguments)
    (.protocol parser.providerId "tool arguments are malformed JSON")
  .ok ({ parser with tools := parser.tools.erase index },
    [.toolCallCompleted index tool.id tool.name arguments])

def completeAllTools : Parsed :=
  emitAll (completeTool fromStr) parser (parser.tools.keys.insertionSort (· ≤ ·))

/-! ## The responses dialect -/

/-- `response.output_item.done` brings the arguments of a call of which no text has come. -/
def fillArguments (index : Nat) (arguments : Option Text) : ProtocolParser :=
  match arguments with
  | none => parser
  | some arguments =>
    { parser with
      tools := parser.tools.modify index fun tool =>
        if tool.arguments.isEmpty then { tool with arguments := arguments } else tool }

def parseOpenaiResponses (frame : SseFrame) : Parsed := do
  let value ← parser.json fromStr frame.data
  let eventType ← requiredStr value "type" parser.providerId
  match ResponsesType.ofName eventType with
  | .created =>
    .ok ({ parser with started := true }, [.started (strAt value ["response", "id"])])
  | .outputTextDelta =>
    let text ← requiredStr value "delta" parser.providerId
    .ok (parser.ensureStarted.1,
      parser.ensureStarted.2 ++ textEvents text (countAt value "content_index"))
  | .outputItemAdded =>
    if strAt value ["item", "type"] = some "function_call".toList then
      let index ← requiredUsize value "output_index" parser.providerId
      let id ← okOr (((value.pointer ["item", "call_id"]).or (value.pointer ["item", "id"])).bind
        Value.asStr) (.protocol parser.providerId "tool call id is missing")
      let name ← okOr (strAt value ["item", "name"])
        (.protocol parser.providerId "tool call name is missing")
      .ok (parser.startTool index id name)
    else .ok (parser, [])
  | .argumentsDelta =>
    let index ← requiredUsize value "output_index" parser.providerId
    let delta ← requiredStr value "delta" parser.providerId
    parser.toolDelta index delta
  | .outputItemDone =>
    if strAt value ["item", "type"] = some "function_call".toList then
      let index ← requiredUsize value "output_index" parser.providerId
      (parser.fillArguments index (strAt value ["item", "arguments"])).completeTool fromStr index
    else .ok (parser, [])
  | .completed =>
    .ok (parser, usageEvents (usageOpenai (value.pointer ["response", "usage"])) ++
      [.finished .endTurn "completed".toList])
  | .incomplete =>
    let reason := (strAt value ["response", "incomplete_details", "reason"]).getD
      "incomplete".toList
    .ok (parser, usageEvents (usageOpenai (value.pointer ["response", "usage"])) ++
      [.finished (mapFinish reason) (bounded reason)])
  | .failed => .ok (parser, [streamingError parser.providerId])
  | .cancelled => .ok (parser, [.error (.cancelled parser.providerId)])
  | .unknown => .ok (parser, [])

/-! ## The messages dialect -/

/-- `pending_finish`, from the provider's reason. -/
def setPending (reason : Text) : ProtocolParser :=
  { parser with pendingFinish := some (mapFinish reason, bounded reason) }

def parseAnthropic (frame : SseFrame) : Parsed := do
  let value ← parser.json fromStr frame.data
  let eventType ← requiredStr value "type" parser.providerId
  match MessagesType.ofName eventType with
  | .messageStart =>
    .ok ({ parser with started := true },
      .started (strAt value ["message", "id"]) ::
        usageEvents (usageAnthropic (value.pointer ["message", "usage"]) none))
  | .contentBlockStart =>
    if strAt value ["content_block", "type"] = some "tool_use".toList then
      let index ← requiredUsize value "index" parser.providerId
      let id ← okOr (strAt value ["content_block", "id"])
        (.protocol parser.providerId "tool call id is missing")
      let name ← okOr (strAt value ["content_block", "name"])
        (.protocol parser.providerId "tool call name is missing")
      .ok (parser.startTool index id name)
    else .ok (parser, [])
  | .contentBlockDelta =>
    if strAt value ["delta", "type"] = some "text_delta".toList then
      let text ← okOr (strAt value ["delta", "text"])
        (.protocol parser.providerId "text delta is missing")
      if text.isEmpty then .ok parser.ensureStarted
      else
        let index ← requiredUsize value "index" parser.providerId
        .ok (parser.ensureStarted.1, parser.ensureStarted.2 ++ [.textDelta text index])
    else if strAt value ["delta", "type"] = some "input_json_delta".toList then
      let index ← requiredUsize value "index" parser.providerId
      let delta ← okOr (strAt value ["delta", "partial_json"])
        (.protocol parser.providerId "tool delta is missing")
      parser.toolDelta index delta
    else .ok (parser, [])
  | .contentBlockStop =>
    let index ← requiredUsize value "index" parser.providerId
    if (parser.tools.lookup index).isSome then parser.completeTool fromStr index
    else .ok (parser, [])
  | .messageDelta =>
    .ok (parser.setPending ((strAt value ["delta", "stop_reason"]).getD "end_turn".toList),
      usageEvents (usageAnthropic none (value.get "usage")))
  | .messageStop =>
    let finish := parser.pendingFinish.getD (.endTurn, "end_turn".toList)
    .ok ({ parser with pendingFinish := none }, [.finished finish.1 finish.2])
  | .error => .ok (parser, [streamingError parser.providerId])
  | .unknown => .ok (parser, [])

/-! ## Gemini -/

/-- A call in one part, which starts and completes it. -/
def geminiCall (candidateIndex partIndex index : Nat) (call : Value) :
    Except ProviderError (List LlmEvent) := do
  let name ← okOr (strAt call ["name"])
    (.protocol parser.providerId "tool call name is missing")
  let id := (strAt call ["id"]).getD
    ("gemini-".toList ++ decimal candidateIndex ++ ['-'] ++ decimal partIndex)
  .ok [.toolCallStarted index id name,
    .toolCallCompleted index id name ((call.get "args").getD (.object []))]

def geminiPart (candidateIndex : Nat) (parser : ProtocolParser) (part : Value × Nat) : Parsed := do
  let index := satAdd (min (candidateIndex * 1000) u64Max) part.2
  if (part.1.get "thought").bind Value.asBool = some true then .ok (parser, [])
  else
    let text := textEvents ((strAt part.1 ["text"]).getD []) index
    match part.1.get "functionCall" with
    | none => .ok (parser, text)
    | some call =>
      let events ← parser.geminiCall candidateIndex part.2 index call
      .ok (parser, text ++ events)

def geminiCandidate (parser : ProtocolParser) (candidate : Value) : Parsed := do
  let parts := ((candidate.pointer ["content", "parts"]).bind Value.asArray).getD []
  let (parser, events) ← emitAll (geminiPart (countAt candidate "index")) parser parts.zipIdx
  match strAt candidate ["finishReason"] with
  | some reason => .ok (parser.setPending reason, events)
  | none => .ok (parser, events)

def parseGemini (frame : SseFrame) : Parsed := do
  let value ← parser.json fromStr frame.data
  if (value.get "error").isSome then .ok (parser, [streamingError parser.providerId])
  else
    let (next, events) ← emitAll geminiCandidate parser.ensureStarted.1
      (((value.get "candidates").bind Value.asArray).getD [])
    let shown := parser.ensureStarted.2 ++ events ++
      usageEvents (usageGemini (value.get "usageMetadata"))
    match next.pendingFinish with
    | some finish =>
      .ok ({ next with pendingFinish := none }, shown ++ [.finished finish.1 finish.2])
    | none => .ok (next, shown)

/-! ## Chat completions -/

/-- One entry of `tool_calls`: the first of an index starts the tool, the next ones may rename it. -/
def chatToolCall (parser : ProtocolParser) (call : Value) : ProtocolParser × List LlmEvent :=
  let index := countAt call "index"
  let id := strAt call ["id"]
  let name := strAt call ["function", "name"]
  let opened := match parser.tools.lookup index with
    | none => parser.startTool index (id.getD "tool-call".toList) (name.getD "unknown_tool".toList)
    | some _ =>
      ({ parser with
          tools := parser.tools.modify index fun tool =>
            { tool with id := id.getD tool.id, name := name.getD tool.name } }, [])
  match strAt call ["function", "arguments"] with
  | none => opened
  | some delta => (opened.1.pushArguments index delta, opened.2 ++ [.toolCallDelta index delta])

def chatChoice (parser : ProtocolParser) (choice : Value) : ProtocolParser × List LlmEvent :=
  let text := textEvents ((strAt choice ["delta", "content"]).getD []) (countAt choice "index")
  let called := emitEach chatToolCall parser
    (((choice.pointer ["delta", "tool_calls"]).bind Value.asArray).getD [])
  match strAt choice ["finish_reason"] with
  | some reason => (called.1.setPending reason, text ++ called.2)
  | none => (called.1, text ++ called.2)

def parseChatCompletions (frame : SseFrame) : Parsed := do
  if frame.data.trim = "[DONE]".toList then
    if parser.terminal then .ok (parser, [])
    else
      let (next, events) ← parser.completeAllTools fromStr
      let finish := next.pendingFinish.getD (.endTurn, "stop".toList)
      .ok ({ next with pendingFinish := none }, events ++ [.finished finish.1 finish.2])
  else
    let value ← parser.json fromStr frame.data
    if (value.get "error").isSome then .ok (parser, [streamingError parser.providerId])
    else
      let started := if parser.started then [] else [.started (strAt value ["id"])]
      let next := emitEach chatChoice { parser with started := true }
        (((value.get "choices").bind Value.asArray).getD [])
      .ok (next.1, started ++ next.2 ++ usageEvents (usageOpenai (value.get "usage")))

/-! ## Cohere -/

def parseCohere (frame : SseFrame) : Parsed := do
  let value ← parser.json fromStr frame.data
  let eventType ← requiredStr value "type" parser.providerId
  match CohereType.ofName eventType with
  | .messageStart => .ok ({ parser with started := true }, [.started (strAt value ["id"])])
  | .contentDelta =>
    let content ← okOr (value.pointer ["delta", "message", "content"])
      (.protocol parser.providerId "content delta is missing")
    match strAt content ["text"] with
    | some text =>
      .ok (parser.ensureStarted.1,
        parser.ensureStarted.2 ++ textEvents text (countAt value "index"))
    | none =>
      require (strAt content ["thinking"]).isSome
        (.protocol parser.providerId "content delta has no supported payload")
      .ok parser.ensureStarted
  | .toolCallStart =>
    let index ← requiredUsize value "index" parser.providerId
    let call ← okOr (value.pointer ["delta", "message", "tool_calls"])
      (.protocol parser.providerId "tool call is missing")
    let id ← okOr (strAt call ["id"])
      (.protocol parser.providerId "tool call id is missing")
    let name ← okOr (strAt call ["function", "name"])
      (.protocol parser.providerId "tool call name is missing")
    let opened := parser.startTool index id name
    let arguments := (strAt call ["function", "arguments"]).getD []
    if arguments.isEmpty then .ok opened
    else
      let _ ← okOr (opened.1.tools.lookup index)
        (.protocol parser.providerId "tool state could not be initialized")
      .ok (opened.1.pushArguments index arguments, opened.2 ++ [.toolCallDelta index arguments])
  | .toolCallDelta =>
    let index ← requiredUsize value "index" parser.providerId
    let delta ← okOr (strAt value ["delta", "message", "tool_calls", "function", "arguments"])
      (.protocol parser.providerId "tool delta is missing")
    parser.toolDelta index delta
  | .toolCallEnd =>
    let index ← requiredUsize value "index" parser.providerId
    parser.completeTool fromStr index
  | .messageEnd =>
    require parser.tools.entries.isEmpty
      (.protocol parser.providerId "provider ended before completing all tool calls")
    .ok (parser, usageEvents (usageCohere (value.pointer ["delta", "usage"])) ++
      [cohereEnding parser.providerId
        ((strAt value ["delta", "finish_reason"]).getD "COMPLETE".toList)])
  | .error => .ok (parser, [streamingError parser.providerId])
  | .unknown => .ok (parser, [])

/-! ## Frames -/

/-- The events of a frame in the dialect of the parser. -/
def parseFrame (frame : SseFrame) : Parsed :=
  match parser.protocol with
  | .openAiResponses => parser.parseOpenaiResponses fromStr frame
  | .anthropicMessages => parser.parseAnthropic fromStr frame
  | .geminiGenerateContent => parser.parseGemini fromStr frame
  | .openAiChatCompletions => parser.parseChatCompletions fromStr frame
  | .cohereChat => parser.parseCohere fromStr frame
  | .nvidiaNimChat => parser.parseChatCompletions fromStr frame

def parse (frame : SseFrame) : Parsed :=
  if parser.terminal then .ok (parser, [])
  else do
    let (next, events) ← parser.parseFrame fromStr frame
    .ok (if events.any LlmEvent.terminal then { next with terminal := true } else next, events)

end ProtocolParser

end NpcRuntime.Llm
