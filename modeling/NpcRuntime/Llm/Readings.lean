import NpcRuntime.Llm.Parser

/-!
# What a frame says

The five dialects say the same few things. `read` takes a frame to its `Reading`, which depends on
nothing that came before, and `perform` is what the parser does with a reading. `parseFrame_eq` says
that `read` and then `perform` is the parser of every dialect, so a fact about streams is proved for
each reading once.
-/

namespace NpcRuntime.Llm

open Json Text

/-- What a part of a Gemini response says. -/
inductive GeminiItem where
  | text (text : Text) (index : Nat)
  | call (index : Nat) (id name : Text) (arguments : Value)
  | pending (reason : Text)

/-- What a choice of a chat completion says. -/
inductive ChatItem where
  | text (text : Text) (index : Nat)
  | toolCall (index : Nat) (id name arguments : Option Text)
  | pending (reason : Text)

inductive Reading where
  /-- The message starts. -/
  | announce (requestId : Option Text) (usage : Option TokenUsage)
  | text (text : Text) (index : Nat)
  /-- A tool call starts, with its first arguments. -/
  | start (index : Nat) (id name arguments : Text)
  | delta (index : Nat) (fragment : Text)
  /-- A tool call is complete. These are its arguments if no text of them came before. -/
  | complete (index : Nat) (arguments : Option Text)
  /-- A block ends, which may be a tool call. -/
  | close (index : Nat)
  | pending (reason : Text) (usage : Option TokenUsage)
  | finish (reason : FinishReason) (providerReason : Text) (usage : Option TokenUsage)
  /-- The message ends for the reason that is pending. -/
  | stop
  /-- The message ends, which needs every tool call to be complete. -/
  | ending (reason : Text) (usage : Option TokenUsage)
  /-- The message ends, and so does every tool call. -/
  | done
  | response (items : List GeminiItem) (usage : Option TokenUsage)
  | chunk (requestId : Option Text) (items : List ChatItem) (usage : Option TokenUsage)
  | failed (error : ProviderError)
  | ignored

/-! ## Performing -/

namespace ProtocolParser

def performGemini (parser : ProtocolParser) : GeminiItem → ProtocolParser × List LlmEvent
  | .text text index => (parser, textEvents text index)
  | .call index id name arguments =>
    (parser, [.toolCallStarted index id name, .toolCallCompleted index id name arguments])
  | .pending reason => (parser.setPending reason, [])

/-- The tool of an entry: a new one, or the one of the index under another name. -/
def openTool (parser : ProtocolParser) (index : Nat) (id name : Option Text) :
    ProtocolParser × List LlmEvent :=
  match parser.tools.lookup index with
  | none => parser.startTool index (id.getD "tool-call".toList) (name.getD "unknown_tool".toList)
  | some _ =>
    ({ parser with
        tools := parser.tools.modify index fun tool =>
          { tool with id := id.getD tool.id, name := name.getD tool.name } }, [])

def performChat (parser : ProtocolParser) : ChatItem → ProtocolParser × List LlmEvent
  | .text text index => (parser, textEvents text index)
  | .toolCall index id name none => parser.openTool index id name
  | .toolCall index id name (some delta) =>
    ((parser.openTool index id name).1.pushArguments index delta,
      (parser.openTool index id name).2 ++ [.toolCallDelta index delta])
  | .pending reason => (parser.setPending reason, [])

variable (fromStr : Text → Option Value) (parser : ProtocolParser)

/-- The pending reason is taken. -/
def takePending : ProtocolParser := { parser with pendingFinish := none }

def perform : Reading → Parsed
  | .announce requestId usage =>
    .ok ({ parser with started := true }, .started requestId :: usageEvents usage)
  | .text text index =>
    .ok (parser.ensureStarted.1, parser.ensureStarted.2 ++ textEvents text index)
  | .start index id name arguments =>
    let opened := parser.startTool index id name
    if arguments.isEmpty then .ok opened
    else .ok (opened.1.pushArguments index arguments, opened.2 ++ [.toolCallDelta index arguments])
  | .delta index fragment => parser.toolDelta index fragment
  | .complete index arguments => (parser.fillArguments index arguments).completeTool fromStr index
  | .close index =>
    if (parser.tools.lookup index).isSome then parser.completeTool fromStr index
    else .ok (parser, [])
  | .pending reason usage => .ok (parser.setPending reason, usageEvents usage)
  | .finish reason providerReason usage =>
    .ok (parser, usageEvents usage ++ [.finished reason providerReason])
  | .stop =>
    let finish := parser.pendingFinish.getD (.endTurn, "end_turn".toList)
    .ok (parser.takePending, [.finished finish.1 finish.2])
  | .ending reason usage => do
    require parser.tools.entries.isEmpty
      (.protocol parser.providerId "provider ended before completing all tool calls")
    .ok (parser, usageEvents usage ++ [cohereEnding parser.providerId reason])
  | .done => do
    let (next, events) ← parser.completeAllTools fromStr
    let finish := next.pendingFinish.getD (.endTurn, "stop".toList)
    .ok (next.takePending, events ++ [.finished finish.1 finish.2])
  | .response items usage =>
    let next := emitEach performGemini parser.ensureStarted.1 items
    let shown := parser.ensureStarted.2 ++ next.2 ++ usageEvents usage
    match next.1.pendingFinish with
    | some finish => .ok (next.1.takePending, shown ++ [.finished finish.1 finish.2])
    | none => .ok (next.1, shown)
  | .chunk requestId items usage =>
    let started := if parser.started then [] else [.started requestId]
    let next := emitEach performChat { parser with started := true } items
    .ok (next.1, started ++ next.2 ++ usageEvents usage)
  | .failed error => .ok (parser, [.error error])
  | .ignored => .ok (parser, [])

end ProtocolParser

/-! ## Reading -/

section Read

variable (providerId : Text)

/-- An error that the provider reports. -/
def reported : Reading :=
  .failed (.protocol providerId "provider reported a streaming error")

def readResponses (value : Value) : Except ProviderError Reading := do
  let eventType ← requiredStr value "type" providerId
  match ResponsesType.ofName eventType with
  | .created => .ok (.announce (strAt value ["response", "id"]) none)
  | .outputTextDelta =>
    let text ← requiredStr value "delta" providerId
    .ok (.text text (countAt value "content_index"))
  | .outputItemAdded =>
    if strAt value ["item", "type"] = some "function_call".toList then
      let index ← requiredUsize value "output_index" providerId
      let id ← okOr (((value.pointer ["item", "call_id"]).or (value.pointer ["item", "id"])).bind
        Value.asStr) (.protocol providerId "tool call id is missing")
      let name ← okOr (strAt value ["item", "name"])
        (.protocol providerId "tool call name is missing")
      .ok (.start index id name [])
    else .ok .ignored
  | .argumentsDelta =>
    let index ← requiredUsize value "output_index" providerId
    let delta ← requiredStr value "delta" providerId
    .ok (.delta index delta)
  | .outputItemDone =>
    if strAt value ["item", "type"] = some "function_call".toList then
      let index ← requiredUsize value "output_index" providerId
      .ok (.complete index (strAt value ["item", "arguments"]))
    else .ok .ignored
  | .completed =>
    .ok (.finish .endTurn "completed".toList
      (usageOpenai (value.pointer ["response", "usage"])))
  | .incomplete =>
    let reason := (strAt value ["response", "incomplete_details", "reason"]).getD
      "incomplete".toList
    .ok (.finish (mapFinish reason) (bounded reason)
      (usageOpenai (value.pointer ["response", "usage"])))
  | .failed => .ok (reported providerId)
  | .cancelled => .ok (.failed (.cancelled providerId))
  | .unknown => .ok .ignored

def readAnthropic (value : Value) : Except ProviderError Reading := do
  let eventType ← requiredStr value "type" providerId
  match MessagesType.ofName eventType with
  | .messageStart =>
    .ok (.announce (strAt value ["message", "id"])
      (usageAnthropic (value.pointer ["message", "usage"]) none))
  | .contentBlockStart =>
    if strAt value ["content_block", "type"] = some "tool_use".toList then
      let index ← requiredUsize value "index" providerId
      let id ← okOr (strAt value ["content_block", "id"])
        (.protocol providerId "tool call id is missing")
      let name ← okOr (strAt value ["content_block", "name"])
        (.protocol providerId "tool call name is missing")
      .ok (.start index id name [])
    else .ok .ignored
  | .contentBlockDelta =>
    if strAt value ["delta", "type"] = some "text_delta".toList then
      let text ← okOr (strAt value ["delta", "text"])
        (.protocol providerId "text delta is missing")
      if text.isEmpty then .ok (.text [] 0)
      else
        let index ← requiredUsize value "index" providerId
        .ok (.text text index)
    else if strAt value ["delta", "type"] = some "input_json_delta".toList then
      let index ← requiredUsize value "index" providerId
      let delta ← okOr (strAt value ["delta", "partial_json"])
        (.protocol providerId "tool delta is missing")
      .ok (.delta index delta)
    else .ok .ignored
  | .contentBlockStop =>
    let index ← requiredUsize value "index" providerId
    .ok (.close index)
  | .messageDelta =>
    .ok (.pending ((strAt value ["delta", "stop_reason"]).getD "end_turn".toList)
      (usageAnthropic none (value.get "usage")))
  | .messageStop => .ok .stop
  | .error => .ok (reported providerId)
  | .unknown => .ok .ignored

/-- The items of a part that is not a thought. -/
def readGeminiPart (candidateIndex : Nat) (part : Value × Nat) :
    Except ProviderError (List GeminiItem) :=
  let index := satAdd (min (candidateIndex * 1000) u64Max) part.2
  if (part.1.get "thought").bind Value.asBool = some true then .ok []
  else
    let text := .text ((strAt part.1 ["text"]).getD []) index
    match part.1.get "functionCall" with
    | none => .ok [text]
    | some call => do
      let name ← okOr (strAt call ["name"])
        (.protocol providerId "tool call name is missing")
      let id := (strAt call ["id"]).getD
        ("gemini-".toList ++ decimal candidateIndex ++ ['-'] ++ decimal part.2)
      .ok [text, .call index id name ((call.get "args").getD (.object []))]

def readGeminiCandidate (candidate : Value) : Except ProviderError (List GeminiItem) := do
  let parts := ((candidate.pointer ["content", "parts"]).bind Value.asArray).getD []
  let items ← parts.zipIdx.mapM (readGeminiPart providerId (countAt candidate "index"))
  .ok (items.flatten ++ (strAt candidate ["finishReason"]).toList.map .pending)

def readGemini (value : Value) : Except ProviderError Reading :=
  if (value.get "error").isSome then .ok (reported providerId)
  else do
    let items ← (((value.get "candidates").bind Value.asArray).getD []).mapM
      (readGeminiCandidate providerId)
    .ok (.response items.flatten (usageGemini (value.get "usageMetadata")))

def readToolCall (call : Value) : ChatItem :=
  .toolCall (countAt call "index") (strAt call ["id"]) (strAt call ["function", "name"])
    (strAt call ["function", "arguments"])

def readChoice (choice : Value) : List ChatItem :=
  .text ((strAt choice ["delta", "content"]).getD []) (countAt choice "index") ::
    ((((choice.pointer ["delta", "tool_calls"]).bind Value.asArray).getD []).map readToolCall ++
      (strAt choice ["finish_reason"]).toList.map .pending)

def readChunk (value : Value) : Reading :=
  if (value.get "error").isSome then reported providerId
  else
    .chunk (strAt value ["id"])
      ((((value.get "choices").bind Value.asArray).getD []).flatMap readChoice)
      (usageOpenai (value.get "usage"))

def readCohere (value : Value) : Except ProviderError Reading := do
  let eventType ← requiredStr value "type" providerId
  match CohereType.ofName eventType with
  | .messageStart => .ok (.announce (strAt value ["id"]) none)
  | .contentDelta =>
    let content ← okOr (value.pointer ["delta", "message", "content"])
      (.protocol providerId "content delta is missing")
    match strAt content ["text"] with
    | some text => .ok (.text text (countAt value "index"))
    | none =>
      require (strAt content ["thinking"]).isSome
        (.protocol providerId "content delta has no supported payload")
      .ok (.text [] 0)
  | .toolCallStart =>
    let index ← requiredUsize value "index" providerId
    let call ← okOr (value.pointer ["delta", "message", "tool_calls"])
      (.protocol providerId "tool call is missing")
    let id ← okOr (strAt call ["id"])
      (.protocol providerId "tool call id is missing")
    let name ← okOr (strAt call ["function", "name"])
      (.protocol providerId "tool call name is missing")
    .ok (.start index id name ((strAt call ["function", "arguments"]).getD []))
  | .toolCallDelta =>
    let index ← requiredUsize value "index" providerId
    let delta ← okOr (strAt value ["delta", "message", "tool_calls", "function", "arguments"])
      (.protocol providerId "tool delta is missing")
    .ok (.delta index delta)
  | .toolCallEnd =>
    let index ← requiredUsize value "index" providerId
    .ok (.complete index none)
  | .messageEnd =>
    .ok (.ending ((strAt value ["delta", "finish_reason"]).getD "COMPLETE".toList)
      (usageCohere (value.pointer ["delta", "usage"])))
  | .error => .ok (reported providerId)
  | .unknown => .ok .ignored

variable (fromStr : Text → Option Value)

def readJson (data : Text) : Except ProviderError Value :=
  okOr (fromStr data) (.protocol providerId "provider emitted malformed JSON")

def readChat (data : Text) : Except ProviderError Reading :=
  if data.trim = "[DONE]".toList then .ok .done
  else (readJson providerId fromStr data).map (readChunk providerId)

/-- What a frame says in a dialect. -/
def read (protocol : ProviderProtocol) (frame : SseFrame) : Except ProviderError Reading :=
  match protocol with
  | .openAiResponses => readJson providerId fromStr frame.data >>= readResponses providerId
  | .anthropicMessages => readJson providerId fromStr frame.data >>= readAnthropic providerId
  | .geminiGenerateContent => readJson providerId fromStr frame.data >>= readGemini providerId
  | .openAiChatCompletions | .nvidiaNimChat => readChat providerId fromStr frame.data
  | .cohereChat => readJson providerId fromStr frame.data >>= readCohere providerId

end Read

/-! ## The parser performs what it reads -/

namespace ProtocolParser

variable (fromStr : Text → Option Value) (parser : ProtocolParser) (frame : SseFrame)

theorem textEvents_of_ne {text : Text} (h : text.isEmpty = false) (index : Nat) :
    textEvents text index = [.textDelta text index] := by
  rw [textEvents, h]
  rfl

theorem parseOpenaiResponses_eq : parser.parseOpenaiResponses fromStr frame =
    ((parser.json fromStr frame.data >>= readResponses parser.providerId) >>=
      parser.perform fromStr) := by
  unfold parseOpenaiResponses readResponses
  simp only [bind_assoc]
  refine bind_congr fun value => bind_congr fun eventType => ?_
  cases ResponsesType.ofName eventType with
  | created | completed | incomplete | failed | cancelled | unknown => rfl
  | outputTextDelta | argumentsDelta =>
    simp only [bind_assoc]
    rfl
  | outputItemAdded | outputItemDone =>
    split_ifs
    · simp only [bind_assoc]
      rfl
    · rfl

theorem parseAnthropic_eq : parser.parseAnthropic fromStr frame =
    ((parser.json fromStr frame.data >>= readAnthropic parser.providerId) >>=
      parser.perform fromStr) := by
  unfold parseAnthropic readAnthropic
  simp only [bind_assoc]
  refine bind_congr fun value => bind_congr fun eventType => ?_
  cases MessagesType.ofName eventType with
  | messageStart | messageDelta | messageStop | error | unknown => rfl
  | contentBlockStart =>
    dsimp only
    split_ifs
    · simp only [bind_assoc]
      rfl
    · rfl
  | contentBlockDelta =>
    dsimp only
    split_ifs
    · simp only [bind_assoc]
      refine bind_congr fun text => ?_
      cases htext : text.isEmpty with
      | true => exact congrArg Except.ok (congrArg (Prod.mk _) (List.append_nil _).symm)
      | false =>
        simp only [Bool.false_eq_true, if_false, bind_assoc]
        refine bind_congr fun index => ?_
        show Except.ok _ = Except.ok (_, _ ++ textEvents text index)
        rw [textEvents_of_ne htext]
    · simp only [bind_assoc]
      rfl
    · rfl
  | contentBlockStop =>
    simp only [bind_assoc]
    rfl

theorem geminiPart_eq (candidateIndex : Nat) (part : Value × Nat) :
    geminiPart candidateIndex parser part =
      (readGeminiPart parser.providerId candidateIndex part).map
        (emitEach performGemini parser) := by
  unfold geminiPart readGeminiPart
  split_ifs
  · rfl
  · cases part.1.get "functionCall" with
    | none => simp only [Except.map, emitEach, performGemini, List.append_nil]
    | some call =>
      simp only [geminiCall]
      cases strAt call ["name"] with
      | none => rfl
      | some name => rfl

theorem performGemini_providerId (item : GeminiItem) :
    (parser.performGemini item).1.providerId = parser.providerId := by
  cases item <;> rfl

theorem geminiCandidate_eq (candidate : Value) :
    geminiCandidate parser candidate =
      (readGeminiCandidate parser.providerId candidate).map (emitEach performGemini parser) := by
  unfold geminiCandidate readGeminiCandidate
  have hparts := emitAll_read (fun next : ProtocolParser => next.providerId = parser.providerId)
    (fun next item h => (performGemini_providerId next item).trans h)
    (fun next part h => h ▸ geminiPart_eq next (countAt candidate "index") part)
    (((candidate.pointer ["content", "parts"]).bind Value.asArray).getD []).zipIdx rfl
  simp only [hparts, bind, Except.bind]
  cases ((((candidate.pointer ["content", "parts"]).bind Value.asArray).getD []).zipIdx.mapM
    (readGeminiPart parser.providerId (countAt candidate "index"))) with
  | error error => rfl
  | ok items =>
    simp only [Except.map, emitEach_append]
    cases strAt candidate ["finishReason"] with
    | none =>
      simp only [Option.toList_none, List.map_nil, emitEach, List.append_nil]
    | some reason =>
      simp only [Option.toList_some, List.map_singleton, emitEach, performGemini, List.append_nil]

theorem ensureStarted_providerId : parser.ensureStarted.1.providerId = parser.providerId := by
  unfold ensureStarted
  split_ifs <;> rfl

theorem parseGemini_eq : parser.parseGemini fromStr frame =
    ((parser.json fromStr frame.data >>= readGemini parser.providerId) >>=
      parser.perform fromStr) := by
  unfold parseGemini readGemini
  cases parser.json fromStr frame.data with
  | error error => rfl
  | ok value =>
    simp only [bind, Except.bind]
    split_ifs
    · rfl
    · have hcandidates := emitAll_read
        (fun next : ProtocolParser => next.providerId = parser.providerId)
        (fun next item h => (performGemini_providerId next item).trans h)
        (fun next candidate h => h ▸ geminiCandidate_eq next candidate)
        (((value.get "candidates").bind Value.asArray).getD []) parser.ensureStarted_providerId
      simp only [hcandidates]
      cases (((value.get "candidates").bind Value.asArray).getD []).mapM
        (readGeminiCandidate parser.providerId) <;> rfl

theorem chatToolCall_eq (call : Value) :
    parser.chatToolCall call = parser.performChat (readToolCall call) := by
  unfold chatToolCall readToolCall
  cases strAt call ["function", "arguments"] <;> rfl

theorem chatChoice_eq (choice : Value) :
    parser.chatChoice choice = emitEach performChat parser (readChoice choice) := by
  have hcalls : ∀ (calls : List Value) (next : ProtocolParser),
      emitEach chatToolCall next calls = emitEach performChat next (calls.map readToolCall) := by
    intro calls
    induction calls with
    | nil => exact fun _ => rfl
    | cons call calls ih =>
      intro next
      simp only [emitEach, List.map_cons, chatToolCall_eq, ih]
  unfold chatChoice readChoice
  simp only [emitEach, performChat, emitEach_append, hcalls]
  cases strAt choice ["finish_reason"] with
  | none => simp only [Option.toList_none, List.map_nil, emitEach, List.append_nil]
  | some reason =>
    simp only [Option.toList_some, List.map_singleton, emitEach, performChat, List.append_nil]

theorem parseChatCompletions_eq (hterminal : parser.terminal = false) :
    parser.parseChatCompletions fromStr frame =
      (readChat parser.providerId fromStr frame.data >>= parser.perform fromStr) := by
  unfold parseChatCompletions readChat readJson json
  by_cases hdone : frame.data.trim = "[DONE]".toList
  · rw [if_pos hdone, if_pos hdone, hterminal]
    rfl
  · rw [if_neg hdone, if_neg hdone]
    cases fromStr frame.data with
    | none => rfl
    | some value =>
      unfold readChunk
      simp only [okOr, Except.map, bind, Except.bind]
      cases (value.get "error").isSome with
      | true => rfl
      | false =>
        simp only [Bool.false_eq_true, if_false, perform, emitEach_flatMap chatChoice_eq]

theorem startTool_lookup (index : Nat) (id name : Text) :
    ((parser.startTool index id name).1.tools.lookup index).isSome = true := by
  unfold startTool
  cases hopen : parser.tools.lookup index with
  | none => simp only [AList.lookup_insert, Option.isSome_some]
  | some tool => simp only [hopen, Option.isSome_some]

theorem parseCohere_eq : parser.parseCohere fromStr frame =
    ((parser.json fromStr frame.data >>= readCohere parser.providerId) >>=
      parser.perform fromStr) := by
  unfold parseCohere readCohere
  simp only [bind_assoc]
  refine bind_congr fun value => bind_congr fun eventType => ?_
  cases CohereType.ofName eventType with
  | messageStart | messageEnd | error | unknown => rfl
  | contentDelta =>
    simp only [bind_assoc]
    refine bind_congr fun content => ?_
    cases strAt content ["text"] with
    | some text => rfl
    | none =>
      simp only [bind_assoc]
      refine bind_congr fun _ => ?_
      exact congrArg Except.ok (congrArg (Prod.mk _) (List.append_nil _).symm)
  | toolCallStart =>
    simp only [bind_assoc]
    refine bind_congr fun index => bind_congr fun call => bind_congr fun id =>
      bind_congr fun name => ?_
    obtain ⟨tool, htool⟩ := Option.isSome_iff_exists.1 (parser.startTool_lookup index id name)
    simp only [htool]
    rfl
  | toolCallDelta | toolCallEnd =>
    simp only [bind_assoc]
    rfl

/-- **Every dialect is read, and then performed.** -/
theorem parseFrame_eq (hterminal : parser.terminal = false) :
    parser.parseFrame fromStr frame =
      (read parser.providerId fromStr parser.protocol frame >>= parser.perform fromStr) := by
  unfold parseFrame read
  cases hprotocol : parser.protocol with
  | openAiResponses => exact parser.parseOpenaiResponses_eq fromStr frame
  | anthropicMessages => exact parser.parseAnthropic_eq fromStr frame
  | geminiGenerateContent => exact parser.parseGemini_eq fromStr frame
  | cohereChat => exact parser.parseCohere_eq fromStr frame
  | openAiChatCompletions | nvidiaNimChat =>
    exact parser.parseChatCompletions_eq fromStr frame hterminal

/-! ## Tools -/

variable {fromStr parser} {next : ProtocolParser} {events : List LlmEvent}

/-- **A completion that goes through.** -/
theorem completeTool_eq_ok {index : Nat} :
    parser.completeTool fromStr index = .ok (next, events) ↔
      ∃ tool arguments, parser.tools.lookup index = some tool ∧
        toolArguments fromStr tool.arguments = some arguments ∧
        next = { parser with tools := parser.tools.erase index } ∧
        events = [.toolCallCompleted index tool.id tool.name arguments] := by
  unfold completeTool
  cases hopen : parser.tools.lookup index with
  | none => simp [okOr, bind, Except.bind]
  | some tool =>
    cases harguments : toolArguments fromStr tool.arguments with
    | none => simp [okOr, bind, Except.bind, harguments]
    | some arguments =>
      simp [okOr, bind, Except.bind, harguments]
      tauto

theorem toolDelta_eq_ok {index : Nat} {delta : Text} :
    parser.toolDelta index delta = .ok (next, events) ↔
      (∃ tool, parser.tools.lookup index = some tool) ∧
        next = parser.pushArguments index delta ∧ events = [.toolCallDelta index delta] := by
  unfold toolDelta
  cases hopen : parser.tools.lookup index with
  | none => simp [okOr, bind, Except.bind]
  | some tool =>
    simp [okOr, bind, Except.bind]
    tauto

end ProtocolParser

end NpcRuntime.Llm
