import NpcRuntime.Llm.Readings

/-!
# The text of a stream

The text of the events is the text of the frames: `frameText` says what text a frame holds, from its
JSON alone, and `said_of_read` and `perform_said` that a reading says it and that performing the
reading emits it, whatever the parser has seen. The second holds of all content of a reading, its
text and its usage (`perform_sees`).
-/

namespace NpcRuntime.Llm

open Json Text

namespace LlmEvent

def text : LlmEvent → Text
  | .textDelta text _ => text
  | _ => []

end LlmEvent

/-- The text deltas of a frame, thoughts apart. A frame that reports an error has none. -/
def frameText (fromStr : Text → Option Value) (protocol : ProviderProtocol) (frame : SseFrame) :
    Text :=
  match protocol, fromStr frame.data with
  | _, none => []
  | .openAiResponses, some value =>
    if strAt value ["type"] = some "response.output_text.delta".toList then
      (strAt value ["delta"]).getD []
    else []
  | .anthropicMessages, some value =>
    if strAt value ["type"] = some "content_block_delta".toList ∧
        strAt value ["delta", "type"] = some "text_delta".toList then
      (strAt value ["delta", "text"]).getD []
    else []
  | .geminiGenerateContent, some value =>
    if (value.get "error").isSome then []
    else (((value.get "candidates").bind Value.asArray).getD []).flatMap fun candidate =>
      (((candidate.pointer ["content", "parts"]).bind Value.asArray).getD []).flatMap fun part =>
        if (part.get "thought").bind Value.asBool = some true then []
        else (strAt part ["text"]).getD []
  | .openAiChatCompletions, some value | .nvidiaNimChat, some value =>
    if frame.data.trim = "[DONE]".toList ∨ (value.get "error").isSome then []
    else (((value.get "choices").bind Value.asArray).getD []).flatMap fun choice =>
      (strAt choice ["delta", "content"]).getD []
  | .cohereChat, some value =>
    if strAt value ["type"] = some "content-delta".toList then
      (strAt value ["delta", "message", "content", "text"]).getD []
    else []

/-! ## What a reading says -/

def GeminiItem.said : GeminiItem → Text
  | .text said _ => said
  | _ => []

def ChatItem.said : ChatItem → Text
  | .text said _ => said
  | _ => []

def Reading.said : Reading → Text
  | .text said _ => said
  | .response items _ => items.flatMap GeminiItem.said
  | .chunk _ items _ => items.flatMap ChatItem.said
  | _ => []

/-! ## Fields -/

@[simp] theorem strAt_single (value : Value) (key : String) :
    strAt value [key] = (value.get key).bind Value.asStr := by
  unfold strAt
  cases hvalue : value.get key <;> simp [Value.pointer, hvalue]

theorem requiredStr_eq_ok {value : Value} {key : String} {providerId text : Text} :
    requiredStr value key providerId = .ok text ↔ strAt value [key] = some text := by
  rw [requiredStr, okOr_eq_ok, strAt_single]

theorem pointer_append (path rest : List String) (value : Value) :
    value.pointer (path ++ rest) = (value.pointer path).bind (Value.pointer rest) := by
  induction path generalizing value with
  | nil => rfl
  | cons key path ih =>
    simp only [List.cons_append, Value.pointer]
    cases value.get key with
    | none => rfl
    | some next => exact ih next

theorem strAt_append {value inner : Value} {path : List String}
    (h : value.pointer path = some inner) (rest : List String) :
    strAt value (path ++ rest) = strAt inner rest := by
  rw [strAt, pointer_append, h]
  rfl

variable {name : Text}

/-- A type of a frame has the names that the table gives it. -/
theorem typeOf_eq_iff {α : Type} {types : List (String × α)} {unknown type : α}
    (hkeys : (types.map fun entry => entry.1.toList).Nodup) (htype : type ≠ unknown) :
    typeOf types unknown name = type ↔ ∃ entry ∈ types, entry.1.toList = name ∧ entry.2 = type := by
  unfold typeOf
  constructor
  · intro h
    cases hfind : types.find? fun entry => entry.1.toList = name with
    | none =>
      rw [hfind] at h
      exact absurd h.symm htype
    | some entry =>
      rw [hfind] at h
      have hname := List.find?_some hfind
      exact ⟨entry, List.mem_of_find?_eq_some hfind, of_decide_eq_true hname, h⟩
  · rintro ⟨entry, hentry, rfl, rfl⟩
    cases hfind : types.find? fun other => other.1.toList = entry.1.toList with
    | none =>
      have hother := List.find?_eq_none.1 hfind entry hentry
      exact absurd (decide_eq_true rfl) hother
    | some other =>
      have hname := List.find?_some hfind
      have hsame := List.inj_on_of_nodup_map hkeys (List.mem_of_find?_eq_some hfind) hentry
        (of_decide_eq_true hname)
      rw [hsame]
      rfl

theorem responses_outputTextDelta :
    ResponsesType.ofName name = .outputTextDelta ↔
      name = "response.output_text.delta".toList := by
  unfold ResponsesType.ofName
  rw [typeOf_eq_iff (by decide) (by decide)]
  simp [eq_comm]

theorem messages_contentBlockDelta :
    MessagesType.ofName name = .contentBlockDelta ↔ name = "content_block_delta".toList := by
  unfold MessagesType.ofName
  rw [typeOf_eq_iff (by decide) (by decide)]
  simp [eq_comm]

theorem cohere_contentDelta :
    CohereType.ofName name = .contentDelta ↔ name = "content-delta".toList := by
  unfold CohereType.ofName
  rw [typeOf_eq_iff (by decide) (by decide)]
  simp [eq_comm]

/-! ## A reading says the text of its frame -/

section Said

variable {providerId : Text} {value : Value} {reading : Reading}

theorem said_of_readResponses :
    Returns (readResponses providerId value) fun reading => reading.said =
      if strAt value ["type"] = some "response.output_text.delta".toList then
        (strAt value ["delta"]).getD [] else [] := by
  unfold readResponses
  rw [returns_bind]
  intro eventType htype
  rw [requiredStr_eq_ok.1 htype]
  simp only [Option.some.injEq, ← responses_outputTextDelta]
  cases ResponsesType.ofName eventType with
  | outputTextDelta =>
    rw [if_pos rfl, returns_bind]
    intro text hdelta
    rw [requiredStr_eq_ok.1 hdelta]
    exact returns_ok.2 rfl
  | _ =>
    simp only [returns_bind, returns_ite, returns_ok, Reading.said, reported, implies_true,
      and_self, reduceCtorEq, if_false]

theorem said_of_readAnthropic :
    Returns (readAnthropic providerId value) fun reading => reading.said =
      if strAt value ["type"] = some "content_block_delta".toList ∧
          strAt value ["delta", "type"] = some "text_delta".toList then
        (strAt value ["delta", "text"]).getD [] else [] := by
  unfold readAnthropic
  rw [returns_bind]
  intro eventType htype
  rw [requiredStr_eq_ok.1 htype]
  simp only [Option.some.injEq, ← messages_contentBlockDelta]
  cases MessagesType.ofName eventType with
  | contentBlockDelta =>
    dsimp only
    by_cases htext : strAt value ["delta", "type"] = some "text_delta".toList
    · rw [if_pos htext, if_pos ⟨rfl, htext⟩, returns_bind]
      intro text hsaid
      rw [okOr_eq_ok.1 hsaid, returns_ite]
      constructor
      · exact fun hempty => returns_ok.2 (List.isEmpty_iff.1 hempty).symm
      · exact fun _ => returns_bind.2 fun _ _ => returns_ok.2 rfl
    · simp only [htext, and_false, if_false, returns_bind, returns_ite, returns_ok, Reading.said,
        implies_true, and_self]
  | _ =>
    simp only [returns_bind, returns_ite, returns_ok, Reading.said, reported, implies_true,
      and_self, reduceCtorEq, false_and, if_false]

theorem said_of_readCohere :
    Returns (readCohere providerId value) fun reading => reading.said =
      if strAt value ["type"] = some "content-delta".toList then
        (strAt value ["delta", "message", "content", "text"]).getD [] else [] := by
  unfold readCohere
  rw [returns_bind]
  intro eventType htype
  rw [requiredStr_eq_ok.1 htype]
  simp only [Option.some.injEq, ← cohere_contentDelta]
  cases CohereType.ofName eventType with
  | contentDelta =>
    rw [if_pos rfl, returns_bind]
    intro content hcontent
    have hpath := strAt_append (okOr_eq_ok.1 hcontent) ["text"]
    rw [show strAt value ["delta", "message", "content", "text"] = strAt content ["text"] from hpath]
    cases strAt content ["text"] with
    | some text => exact returns_ok.2 rfl
    | none => exact returns_bind.2 fun _ _ => returns_ok.2 rfl
  | _ =>
    simp only [returns_bind, returns_ok, Reading.said, reported, implies_true, reduceCtorEq,
      if_false]

/-- The text of a list that is read item by item. -/
theorem flatMap_of_mapM {α β : Type} {read : α → Except ProviderError (List β)} {said : β → Text}
    {text : α → Text} (h : ∀ a bs, read a = .ok bs → bs.flatMap said = text a) {l : List α}
    {results : List (List β)} (hl : l.mapM read = .ok results) :
    results.flatten.flatMap said = l.flatMap text := by
  have hall := mapM_eq_ok.1 hl
  induction hall with
  | nil => rfl
  | cons hread hrest ih =>
    rw [List.flatten_cons, List.flatMap_append, List.flatMap_cons, h _ _ hread,
      ih (mapM_eq_ok.2 hrest)]

theorem said_of_readGeminiPart {candidateIndex : Nat} {part : Value × Nat}
    {items : List GeminiItem} (h : readGeminiPart providerId candidateIndex part = .ok items) :
    items.flatMap GeminiItem.said =
      if (part.1.get "thought").bind Value.asBool = some true then []
      else (strAt part.1 ["text"]).getD [] := by
  unfold readGeminiPart at h
  split_ifs at h ⊢
  · cases h
    rfl
  · cases hcall : part.1.get "functionCall" with
    | none =>
      rw [hcall] at h
      cases h
      exact List.append_nil _
    | some call =>
      rw [hcall] at h
      obtain ⟨name, -, hok⟩ := bind_eq_ok.1 h
      cases hok
      exact List.append_nil _

theorem said_pending (reason : Option Text) :
    (reason.toList.map GeminiItem.pending).flatMap GeminiItem.said = [] ∧
      (reason.toList.map ChatItem.pending).flatMap ChatItem.said = [] := by
  cases reason <;> exact ⟨rfl, rfl⟩

theorem said_of_readGeminiCandidate {candidate : Value} {items : List GeminiItem}
    (h : readGeminiCandidate providerId candidate = .ok items) :
    items.flatMap GeminiItem.said =
      (((candidate.pointer ["content", "parts"]).bind Value.asArray).getD []).flatMap fun part =>
        if (part.get "thought").bind Value.asBool = some true then []
        else (strAt part ["text"]).getD [] := by
  obtain ⟨parts, hparts, hok⟩ := bind_eq_ok.1 h
  cases hok
  rw [List.flatMap_append, (said_pending _).1, List.append_nil,
    flatMap_of_mapM (fun _ _ => said_of_readGeminiPart) hparts]
  generalize ((candidate.pointer ["content", "parts"]).bind Value.asArray).getD [] = values
  have hvalues := List.flatMap_map Prod.fst (fun part : Value =>
    if (part.get "thought").bind Value.asBool = some true then []
    else (strAt part ["text"]).getD []) values.zipIdx
  rw [List.zipIdx_map_fst] at hvalues
  exact hvalues.symm

theorem said_of_readGemini (h : readGemini providerId value = .ok reading) :
    reading.said = if (value.get "error").isSome then []
      else (((value.get "candidates").bind Value.asArray).getD []).flatMap fun candidate =>
        (((candidate.pointer ["content", "parts"]).bind Value.asArray).getD []).flatMap fun part =>
          if (part.get "thought").bind Value.asBool = some true then []
          else (strAt part ["text"]).getD [] := by
  unfold readGemini at h
  split_ifs at h ⊢
  · cases h
    rfl
  · obtain ⟨candidates, hcandidates, hok⟩ := bind_eq_ok.1 h
    cases hok
    exact flatMap_of_mapM (fun _ _ => said_of_readGeminiCandidate) hcandidates

theorem said_of_readChoice (choice : Value) :
    (readChoice choice).flatMap ChatItem.said = (strAt choice ["delta", "content"]).getD [] := by
  unfold readChoice
  rw [List.flatMap_cons, List.flatMap_append, (said_pending _).2, List.flatMap_map]
  have hcalls : ∀ calls : List Value,
      calls.flatMap (fun call => (readToolCall call).said) = [] := by
    intro calls
    rw [List.flatMap_eq_nil_iff]
    exact fun _ _ => rfl
  rw [hcalls]
  exact List.append_nil _

theorem said_of_readChunk :
    (readChunk providerId value).said = if (value.get "error").isSome then []
      else (((value.get "choices").bind Value.asArray).getD []).flatMap fun choice =>
        (strAt choice ["delta", "content"]).getD [] := by
  unfold readChunk
  split_ifs
  · rfl
  · show ((((value.get "choices").bind Value.asArray).getD []).flatMap readChoice).flatMap
      ChatItem.said = _
    rw [List.flatMap_assoc]
    exact congrArg (List.flatMap · _) (funext said_of_readChoice)

variable {fromStr : Text → Option Value} {protocol : ProviderProtocol} {frame : SseFrame}

/-- **What is read is the text of the frame.** -/
theorem said_of_read (h : read providerId fromStr protocol frame = .ok reading) :
    reading.said = frameText fromStr protocol frame := by
  unfold frameText
  cases protocol with
  | openAiResponses =>
    obtain ⟨value, hvalue, hrest⟩ := bind_eq_ok.1 h
    simp only [okOr_eq_ok.1 hvalue]
    exact said_of_readResponses _ hrest
  | anthropicMessages =>
    obtain ⟨value, hvalue, hrest⟩ := bind_eq_ok.1 h
    simp only [okOr_eq_ok.1 hvalue]
    exact said_of_readAnthropic _ hrest
  | geminiGenerateContent =>
    obtain ⟨value, hvalue, hrest⟩ := bind_eq_ok.1 h
    simp only [okOr_eq_ok.1 hvalue]
    exact said_of_readGemini hrest
  | cohereChat =>
    obtain ⟨value, hvalue, hrest⟩ := bind_eq_ok.1 h
    simp only [okOr_eq_ok.1 hvalue]
    exact said_of_readCohere _ hrest
  | openAiChatCompletions | nvidiaNimChat =>
    unfold read readChat at h
    simp only at h
    split_ifs at h with hdone
    · cases h
      cases fromStr frame.data <;> simp [hdone, Reading.said]
    · obtain ⟨value, hvalue, rfl⟩ := map_eq_ok.1 h
      simp only [okOr_eq_ok.1 hvalue, hdone, false_or]
      exact said_of_readChunk

end Said

/-! ## Performing a reading emits its content -/

namespace LlmEvent

/-- The start of a stream and its tool calls. The rest is its text, its usage and its end. -/
def isCourse : LlmEvent → Bool
  | .started _ | .toolCallStarted _ _ _ | .toolCallDelta _ _ | .toolCallCompleted _ _ _ _ => true
  | _ => false

end LlmEvent

def GeminiItem.content : GeminiItem → List LlmEvent
  | .text said index => textEvents said index
  | _ => []

def ChatItem.content : ChatItem → List LlmEvent
  | .text said index => textEvents said index
  | _ => []

def Reading.content : Reading → List LlmEvent
  | .announce _ usage | .pending _ usage | .finish _ _ usage | .ending _ usage => usageEvents usage
  | .text said index => textEvents said index
  | .response items usage => items.flatMap GeminiItem.content ++ usageEvents usage
  | .chunk _ items usage => items.flatMap ChatItem.content ++ usageEvents usage
  | _ => []

/-- A reading that may end the stream. -/
def Reading.ends : Reading → Bool
  | .finish _ _ _ | .stop | .ending _ _ | .done | .response _ _ | .failed _ => true
  | _ => false

namespace ProtocolParser

variable {fromStr : Text → Option Value} {parser next : ProtocolParser} {events : List LlmEvent}

section Content

-- `see` is what is seen of an event, which is nothing of the course of the stream.
variable {γ : Type} {see : LlmEvent → List γ}
  (hsee : ∀ event, event.isCourse = true → see event = [])

include hsee

theorem see_ensureStarted : parser.ensureStarted.2.flatMap see = [] := by
  unfold ensureStarted
  cases parser.started with
  | true => rfl
  | false =>
    show [LlmEvent.started none].flatMap see = []
    rw [List.flatMap_cons, hsee _ rfl]
    rfl

theorem see_completeTool {index : Nat}
    (h : parser.completeTool fromStr index = .ok (next, events)) : events.flatMap see = [] := by
  obtain ⟨tool, arguments, -, -, -, rfl⟩ := completeTool_eq_ok.1 h
  rw [List.flatMap_cons, hsee _ rfl]
  rfl

theorem see_completeAllTools (h : parser.completeAllTools fromStr = .ok (next, events)) :
    events.flatMap see = [] := by
  have hstep : ∀ (parser : ProtocolParser) index next events, True →
      parser.completeTool fromStr index = .ok (next, events) →
      True ∧ ∀ event ∈ events, see event = [] := by
    intro parser index next events _ hcomplete
    exact ⟨trivial, List.flatMap_eq_nil_iff.1 (see_completeTool hsee hcomplete)⟩
  exact List.flatMap_eq_nil_iff.2 (emitAll_inv (fun _ => True) _ hstep h trivial).2

theorem see_performGemini (parser : ProtocolParser) (item : GeminiItem) :
    (parser.performGemini item).2.flatMap see = item.content.flatMap see := by
  cases item with
  | text text index => rfl
  | call index id name arguments =>
    show [_, _].flatMap see = []
    rw [List.flatMap_cons, List.flatMap_cons, hsee _ rfl, hsee _ rfl]
    rfl
  | pending reason => rfl

theorem see_performChat (parser : ProtocolParser) (item : ChatItem) :
    (parser.performChat item).2.flatMap see = item.content.flatMap see := by
  have hopen : ∀ index id name, (parser.openTool index id name).2.flatMap see = [] := by
    intro index id name
    unfold openTool
    cases parser.tools.lookup index with
    | none =>
      show [_].flatMap see = []
      rw [List.flatMap_cons, hsee _ rfl]
      rfl
    | some tool => rfl
  cases item with
  | text text index => rfl
  | toolCall index id name arguments =>
    cases arguments with
    | none => exact hopen index id name
    | some delta =>
      show ((parser.openTool index id name).2 ++ [_]).flatMap see = []
      rw [List.flatMap_append, hopen, List.flatMap_cons, hsee _ rfl]
      rfl
  | pending reason => rfl

/-- **What is performed emits the content of the reading**, the course of the stream, and its end
where the reading may end it. -/
theorem perform_sees {reading : Reading}
    (hends : reading.ends = true → ∀ event, event.terminal = true → see event = [])
    (h : parser.perform fromStr reading = .ok (next, events)) :
    events.flatMap see = reading.content.flatMap see := by
  cases reading with
  | announce requestId usage =>
    cases h
    rw [List.flatMap_cons, hsee _ rfl]
    rfl
  | text text index =>
    cases h
    rw [List.flatMap_append, see_ensureStarted hsee]
    rfl
  | start index id name arguments =>
    have hstarted : see (.toolCallStarted index id name) = [] := hsee _ rfl
    have hdelta : see (.toolCallDelta index arguments) = [] := hsee _ rfl
    unfold perform startTool at h
    simp only at h
    split_ifs at h <;> cases h <;> simp [hstarted, hdelta, Reading.content]
  | delta index fragment =>
    obtain ⟨-, -, rfl⟩ := toolDelta_eq_ok.1 h
    rw [List.flatMap_cons, hsee _ rfl]
    rfl
  | complete index arguments => exact see_completeTool hsee h
  | close index =>
    unfold perform at h
    simp only at h
    split at h
    · exact see_completeTool hsee h
    · cases h
      rfl
  | pending reason usage =>
    cases h
    rfl
  | finish reason providerReason usage =>
    cases h
    rw [List.flatMap_append, List.flatMap_cons, hends rfl _ rfl]
    exact List.append_nil _
  | stop | failed error =>
    cases h
    rw [List.flatMap_cons, hends rfl _ rfl]
    rfl
  | ending reason usage =>
    obtain ⟨-, hrest⟩ := check_eq_ok.1 h
    cases hrest
    have hending : see (cohereEnding parser.providerId reason) = [] := by
      unfold cohereEnding
      split_ifs <;> exact hends rfl _ rfl
    rw [List.flatMap_append, List.flatMap_cons, hending]
    exact List.append_nil _
  | done =>
    obtain ⟨⟨middle, completed⟩, hall, hrest⟩ := bind_eq_ok.1 h
    cases hrest
    rw [List.flatMap_append, see_completeAllTools hsee hall, List.flatMap_cons, hends rfl _ rfl]
    rfl
  | response items usage =>
    have hitems := emitEach_shows (see_performGemini hsee) items parser.ensureStarted.1
    have hfinished : ∀ reason providerReason, see (.finished reason providerReason) = [] :=
      fun _ _ => hends rfl _ rfl
    unfold perform at h
    simp only at h
    split at h <;> cases h <;>
      simp only [List.flatMap_append, see_ensureStarted hsee, hitems, hfinished, List.flatMap_cons,
        List.flatMap_nil, Reading.content, List.append_nil, List.nil_append, List.flatMap_assoc]
  | chunk requestId items usage =>
    cases h
    have hitems := emitEach_shows (see_performChat hsee) items { parser with started := true }
    have hstarted :
        (if parser.started then [] else [LlmEvent.started requestId]).flatMap see = [] := by
      split_ifs
      · rfl
      · rw [List.flatMap_cons, hsee _ rfl]
        rfl
    simp only [List.flatMap_append, hstarted, hitems, Reading.content, List.nil_append,
      List.flatMap_assoc]
  | ignored =>
    cases h
    rfl

end Content

theorem text_textEvents (text : Text) (index : Nat) :
    (textEvents text index).flatMap LlmEvent.text = text := by
  cases htext : text.isEmpty with
  | true =>
    rw [List.isEmpty_iff.1 htext]
    rfl
  | false =>
    rw [textEvents_of_ne htext]
    exact List.append_nil text

theorem text_usageEvents (usage : Option TokenUsage) :
    (usageEvents usage).flatMap LlmEvent.text = [] := by
  cases usage <;> rfl

/-- **What is performed emits the text of the reading.** -/
theorem perform_said {reading : Reading}
    (h : parser.perform fromStr reading = .ok (next, events)) :
    events.flatMap LlmEvent.text = reading.said := by
  have hcourse : ∀ event : LlmEvent, event.isCourse = true → event.text = [] := by
    intro event hevent
    cases event <;> first | rfl | cases hevent
  have hend : ∀ event : LlmEvent, event.terminal = true → event.text = [] := by
    intro event hevent
    cases event <;> first | rfl | cases hevent
  rw [perform_sees hcourse (fun _ => hend) h]
  cases reading with
  | announce requestId usage | pending reason usage | finish reason providerReason usage
  | ending reason usage => exact text_usageEvents usage
  | text text index => exact text_textEvents text index
  | response items usage =>
    have hitem : ∀ item : GeminiItem, item.content.flatMap LlmEvent.text = item.said := by
      intro item
      cases item <;> first | rfl | exact text_textEvents _ _
    simp only [Reading.content, Reading.said, List.flatMap_append, List.flatMap_assoc, hitem,
      text_usageEvents, List.append_nil]
  | chunk requestId items usage =>
    have hitem : ∀ item : ChatItem, item.content.flatMap LlmEvent.text = item.said := by
      intro item
      cases item <;> first | rfl | exact text_textEvents _ _
    simp only [Reading.content, Reading.said, List.flatMap_append, List.flatMap_assoc, hitem,
      text_usageEvents, List.append_nil]
  | start | delta | complete | close | stop | done | failed | ignored => rfl

end ProtocolParser

end NpcRuntime.Llm
