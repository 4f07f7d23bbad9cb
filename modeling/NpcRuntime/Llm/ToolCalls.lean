import NpcRuntime.Llm.Grammar

/-!
# Tool calls

What is said about one index of a stream should be a sequence of calls: a start, fragments, and a
completion under the same id and name, whose arguments are those of the fragments. `CallRun` is the
machine of one index; `Ledger` is what was sent about every index, read off the frames alone.
`CallStep` says that the tools of the parser are those of the ledger and that the events of every
index move its machine, and each reading that is `Clean` keeps it.

Four frames are not clean: a start for an index that is still open, the end of a message while a call
is open (which Cohere refuses, and `[DONE]` answers by completing all calls), a chat entry that gives
an open call another id or name, and an `output_item.done` whose arguments replace empty fragments.
-/

namespace NpcRuntime.Llm

open Json Text

/-! ## Calls -/

/-- What an event says about a call. -/
inductive CallEvent where
  | started (id name : Text)
  | delta (fragment : Text)
  | completed (id name : Text) (arguments : Value)

/-- What an event says about an index. -/
def callEvent (index : Nat) : LlmEvent → Option CallEvent
  | .toolCallStarted i id name => if i = index then some (.started id name) else none
  | .toolCallDelta i fragment => if i = index then some (.delta fragment) else none
  | .toolCallCompleted i id name arguments =>
    if i = index then some (.completed id name arguments) else none
  | _ => none

def callEvents (index : Nat) (events : List LlmEvent) : List CallEvent :=
  events.filterMap (callEvent index)

/-- A call from its start to its completion. -/
structure Call where
  id : Text
  name : Text
  fragments : List Text
  arguments : Value

def Call.events (call : Call) : List CallEvent :=
  .started call.id call.name ::
    (call.fragments.map .delta ++ [.completed call.id call.name call.arguments])

/-- The arguments are those of the fragments, where there are any. -/
def Call.Parsed (fromStr : Text → Option Value) (call : Call) : Prop :=
  call.fragments ≠ [] → toolArguments fromStr call.fragments.flatten = some call.arguments

/-- Call after call. -/
def Bracketed (fromStr : Text → Option Value) (events : List CallEvent) : Prop :=
  ∃ calls : List Call, events = calls.flatMap Call.events ∧ ∀ call ∈ calls, call.Parsed fromStr

/-! ## The machine of an index -/

structure OpenCall where
  id : Text
  name : Text
  fragments : List Text

def OpenCall.events (call : OpenCall) : List CallEvent :=
  .started call.id call.name :: call.fragments.map .delta

/-- The events that take an index from one state to another. -/
inductive CallRun (fromStr : Text → Option Value) :
    Option OpenCall → List CallEvent → Option OpenCall → Prop
  | refl (state : Option OpenCall) : CallRun fromStr state [] state
  | start (id name : Text) : CallRun fromStr none [.started id name] (some ⟨id, name, []⟩)
  | delta (call : OpenCall) (fragment : Text) :
    CallRun fromStr (some call) [.delta fragment]
      (some { call with fragments := call.fragments ++ [fragment] })
  | complete (call : OpenCall) (arguments : Value)
    (h : call.fragments ≠ [] → toolArguments fromStr call.fragments.flatten = some arguments) :
    CallRun fromStr (some call) [.completed call.id call.name arguments] none
  | trans {before middle after : Option OpenCall} {events more : List CallEvent} :
    CallRun fromStr before events middle → CallRun fromStr middle more after →
      CallRun fromStr before (events ++ more) after

variable {fromStr : Text → Option Value}

/-- The events that an open call has had. -/
def openEvents (state : Option OpenCall) : List CallEvent := (state.map OpenCall.events).getD []

theorem CallRun.calls {before after : Option OpenCall} {events : List CallEvent}
    (h : CallRun fromStr before events after) (calls : List Call)
    (hcalls : ∀ call ∈ calls, call.Parsed fromStr) :
    ∃ more : List Call, (∀ call ∈ more, call.Parsed fromStr) ∧
      calls.flatMap Call.events ++ openEvents before ++ events =
        more.flatMap Call.events ++ openEvents after := by
  induction h generalizing calls with
  | refl state => exact ⟨calls, hcalls, List.append_nil _⟩
  | start id name =>
    refine ⟨calls, hcalls, ?_⟩
    simp [openEvents, OpenCall.events]
  | delta call fragment =>
    refine ⟨calls, hcalls, ?_⟩
    simp [openEvents, OpenCall.events]
  | complete call arguments harguments =>
    refine ⟨calls ++ [⟨call.id, call.name, call.fragments, arguments⟩], ?_, ?_⟩
    · intro other hother
      rcases List.mem_append.1 hother with hold | hnew
      · exact hcalls other hold
      · rw [List.mem_singleton.1 hnew]
        exact harguments
    · simp [openEvents, OpenCall.events, Call.events]
  | trans _ _ ih ih' =>
    obtain ⟨middle, hmiddle, hevents⟩ := ih calls hcalls
    obtain ⟨final, hfinal, hevents'⟩ := ih' middle hmiddle
    exact ⟨final, hfinal, by rw [← List.append_assoc, hevents, hevents']⟩

/-- **From closed to closed there are only whole calls.** -/
theorem CallRun.bracketed {events : List CallEvent} (h : CallRun fromStr none events none) :
    Bracketed fromStr events := by
  obtain ⟨calls, hcalls, hevents⟩ := h.calls [] fun call hcall => nomatch hcall
  exact ⟨calls, by simpa [openEvents] using hevents, hcalls⟩

/-! ## What was sent -/

/-- What was sent about an open call: the id and name first and last given, and the fragments. -/
structure Sent where
  first : Text × Text
  last : Text × Text
  fragments : List Text

def Sent.opened (sent : Sent) : OpenCall := ⟨sent.first.1, sent.first.2, sent.fragments⟩

def Sent.tool (sent : Sent) : ToolAccumulator :=
  ⟨sent.last.1, sent.last.2, sent.fragments.flatten⟩

/-- The open calls, by index. -/
abbrev Ledger := Nat → Option Sent

/-- An entry that opens a call, or goes on with it. -/
def Sent.entry (sent : Option Sent) (id name : Option Text) : Sent :=
  match sent with
  | none =>
    let given := (id.getD "tool-call".toList, name.getD "unknown_tool".toList)
    ⟨given, given, []⟩
  | some sent => { sent with last := (id.getD sent.last.1, name.getD sent.last.2) }

def Sent.add (sent : Sent) (fragments : List Text) : Sent :=
  { sent with fragments := sent.fragments ++ fragments }

def ChatItem.send (ledger : Ledger) : ChatItem → Ledger
  | .toolCall index id name arguments =>
    Function.update ledger index
      (some ((Sent.entry (ledger index) id name).add arguments.toList))
  | _ => ledger

def Reading.send (ledger : Ledger) : Reading → Ledger
  | .start index id name arguments =>
    Function.update ledger index
      (some ⟨(id, name), (id, name), if arguments.isEmpty then [] else [arguments]⟩)
  | .delta index fragment =>
    Function.update ledger index ((ledger index).map fun sent => sent.add [fragment])
  | .complete index _ | .close index => Function.update ledger index none
  | .done => fun _ => none
  | .chunk _ items _ => items.foldl ChatItem.send ledger
  | _ => ledger

/-- What the frames sent. -/
def sentBy (fromStr : Text → Option Value) (providerId : Text) (protocol : ProviderProtocol)
    (frames : List SseFrame) : Ledger :=
  frames.foldl (fun ledger frame =>
    match read providerId fromStr protocol frame with
    | .ok reading => reading.send ledger
    | .error _ => ledger) fun _ => none

/-! ## The condition -/

/-- A call starts at an index that is not open, a message finishes when no call is open, a call
completes under the id and name first given, and arguments that come with the completion are not
other ones than those of its fragments. -/
def Reading.Clean (fromStr : Text → Option Value) (tools : Table Nat ToolAccumulator)
    (ledger : Ledger) : Reading → Prop
  | .start index _ _ _ => tools.lookup index = none
  | .finish _ _ _ | .stop => tools.entries = []
  | .complete index arguments => ∀ sent, ledger index = some sent → sent.last = sent.first ∧
      (sent.fragments = [] ∨ sent.fragments.flatten ≠ [] ∨
        ∀ given, arguments = some given → toolArguments fromStr given = some (.object []))
  | .close index => ∀ sent, ledger index = some sent → sent.last = sent.first
  | .done => ∀ index sent, ledger index = some sent → sent.last = sent.first
  | _ => True

/-- What a frame says before the end of the stream is clean, with the frames before it. -/
def CleanFrame (fromStr : Text → Option Value) (past : List SseFrame) (parser : ProtocolParser)
    (frame : SseFrame) : Prop :=
  parser.terminal = false → ∀ reading,
    read parser.providerId fromStr parser.protocol frame = .ok reading →
      reading.Clean fromStr parser.tools (sentBy fromStr parser.providerId parser.protocol past)

/-! ## What a step does -/

/-- The tools of the parser are those of the ledger. -/
def Books (parser : ProtocolParser) (ledger : Ledger) : Prop :=
  ∀ index, parser.tools.lookup index = (ledger index).map Sent.tool

/-- The books are kept, and the events of every index are those of a run of its machine. -/
structure CallStep (fromStr : Text → Option Value) (ledger : Ledger) (events : List LlmEvent)
    (next : ProtocolParser) (ledger' : Ledger) : Prop where
  books : Books next ledger'
  run : ∀ index, CallRun fromStr ((ledger index).map Sent.opened) (callEvents index events)
    ((ledger' index).map Sent.opened)

variable {parser next : ProtocolParser} {ledger ledger' : Ledger} {events more : List LlmEvent}

theorem callEvents_append (index : Nat) (events more : List LlmEvent) :
    callEvents index (events ++ more) = callEvents index events ++ callEvents index more :=
  List.filterMap_append

theorem CallStep.trans {final : ProtocolParser} {ledger'' : Ledger}
    (h : CallStep fromStr ledger events next ledger')
    (h' : CallStep fromStr ledger' more final ledger'') :
    CallStep fromStr ledger (events ++ more) final ledger'' := by
  refine ⟨h'.books, ?_⟩
  intro index
  rw [callEvents_append]
  exact (h.run index).trans (h'.run index)

/-- Events that are about no call. -/
theorem CallStep.quiet (h : Books parser ledger) (htools : next.tools = parser.tools)
    (hevents : ∀ index, callEvents index events = []) :
    CallStep fromStr ledger events next ledger := by
  refine ⟨fun index => htools ▸ h index, ?_⟩
  intro index
  rw [hevents]
  exact .refl _

variable {index : Nat}

/-- Events about one index. -/
theorem CallStep.at {sent : Option Sent} (h : Books parser ledger)
    (htool : next.tools.lookup index = sent.map Sent.tool)
    (hothers : ∀ other, other ≠ index → next.tools.lookup other = parser.tools.lookup other)
    (hevents : ∀ other, other ≠ index → callEvents other events = []) (hrun : CallRun fromStr
      ((ledger index).map Sent.opened) (callEvents index events) (sent.map Sent.opened)) :
    CallStep fromStr ledger events next (Function.update ledger index sent) := by
  constructor
  · intro other
    by_cases hindex : other = index
    · subst hindex
      rw [Function.update_self, htool]
    · rw [Function.update_of_ne hindex, hothers other hindex, h other]
  · intro other
    by_cases hindex : other = index
    · subst hindex
      rw [Function.update_self]
      exact hrun
    · rw [Function.update_of_ne hindex, hevents other hindex]
      exact .refl _

theorem callEvents_start (index : Nat) (id name : Text) :
    callEvents index [.toolCallStarted index id name] = [.started id name] := by
  simp [callEvents, callEvent]

theorem callEvents_delta (index : Nat) (fragment : Text) :
    callEvents index [.toolCallDelta index fragment] = [.delta fragment] := by
  simp [callEvents, callEvent]

theorem callEvents_complete (index : Nat) (id name : Text) (arguments : Value) :
    callEvents index [.toolCallCompleted index id name arguments] =
      [.completed id name arguments] := by
  simp [callEvents, callEvent]

theorem callEvents_usage (index : Nat) (usage : Option TokenUsage) :
    callEvents index (usageEvents usage) = [] := by
  cases usage <;> rfl

theorem callEvents_text (index : Nat) (text : Text) (contentIndex : Nat) :
    callEvents index (textEvents text contentIndex) = [] := by
  unfold textEvents
  split_ifs <;> rfl

theorem callEvents_started (index : Nat) (parser : ProtocolParser) :
    callEvents index parser.ensureStarted.2 = [] := by
  unfold ProtocolParser.ensureStarted
  split_ifs <;> rfl

theorem ensureStarted_tools (parser : ProtocolParser) :
    parser.ensureStarted.1.tools = parser.tools := by
  unfold ProtocolParser.ensureStarted
  split_ifs <;> rfl

/-- A start for an index that is not open. -/
theorem startTool_step (id name : Text) (h : Books parser ledger) (hclosed : ledger index = none) :
    CallStep fromStr ledger (parser.startTool index id name).2
      (parser.startTool index id name).1
      (Function.update ledger index (some ⟨(id, name), (id, name), []⟩)) := by
  have hlookup : parser.tools.lookup index = none := by
    rw [h index, hclosed]
    rfl
  unfold ProtocolParser.startTool
  simp only [hlookup]
  refine CallStep.at h ?_ ?_ ?_ ?_
  · exact AList.lookup_insert parser.tools
  · exact fun other hother => AList.lookup_insert_ne hother
  · intro other hother
    exact List.filterMap_cons_none (if_neg fun hsame => hother hsame.symm)
  · rw [callEvents_start, hclosed]
    exact .start id name

/-- Text for an open call. -/
theorem pushArguments_step {sent : Sent} (delta : Text) (h : Books parser ledger)
    (hopen : ledger index = some sent) :
    CallStep fromStr ledger [.toolCallDelta index delta] (parser.pushArguments index delta)
      (Function.update ledger index (some (sent.add [delta]))) := by
  have hlookup : parser.tools.lookup index = some sent.tool := by
    rw [h index, hopen]
    rfl
  refine CallStep.at h ?_ ?_ ?_ ?_
  · unfold ProtocolParser.pushArguments
    rw [Table.lookup_modify, if_pos rfl, hlookup]
    simp [Sent.add, Sent.tool]
  · intro other hother
    unfold ProtocolParser.pushArguments
    rw [Table.lookup_modify, if_neg hother]
  · intro other hother
    exact List.filterMap_cons_none (if_neg fun hsame => hother hsame.symm)
  · rw [callEvents_delta, hopen]
    exact .delta sent.opened delta

/-- A completion, with the arguments of the fragments. -/
theorem completeTool_step {sent : Sent} {filled : ProtocolParser} {tool : ToolAccumulator}
    (h : Books parser ledger) (hopen : ledger index = some sent) (hagree : sent.last = sent.first)
    (htool : filled.tools.lookup index = some tool) (hid : tool.id = sent.last.1)
    (hname : tool.name = sent.last.2) (harguments : sent.fragments ≠ [] → toolArguments fromStr
      tool.arguments = toolArguments fromStr sent.fragments.flatten)
    (hothers : ∀ other, other ≠ index → filled.tools.lookup other = parser.tools.lookup other)
    (hcomplete : filled.completeTool fromStr index = .ok (next, events)) :
    CallStep fromStr ledger events next (Function.update ledger index none) := by
  obtain ⟨tool', arguments, htool', hvalue, rfl, rfl⟩ :=
    ProtocolParser.completeTool_eq_ok.1 hcomplete
  rw [htool] at htool'
  cases htool'
  refine CallStep.at h ?_ ?_ ?_ ?_
  · exact AList.lookup_erase index filled.tools
  · intro other hother
    rw [← hothers other hother]
    exact AList.lookup_erase_ne hother
  · intro other hother
    exact List.filterMap_cons_none (if_neg fun hsame => hother hsame.symm)
  · rw [callEvents_complete, hopen, hid, hname, hagree]
    exact .complete sent.opened arguments fun hfragments => (harguments hfragments).symm.trans hvalue

/-- A completion of the accumulated arguments. -/
theorem completeTool_step_self (h : Books parser ledger)
    (hagree : ∀ sent, ledger index = some sent → sent.last = sent.first)
    (hcomplete : parser.completeTool fromStr index = .ok (next, events)) :
    CallStep fromStr ledger events next (Function.update ledger index none) := by
  obtain ⟨tool, -, htool, -⟩ := ProtocolParser.completeTool_eq_ok.1 hcomplete
  rw [h index, Option.map_eq_some_iff] at htool
  obtain ⟨sent, hopen, rfl⟩ := htool
  have hlookup : parser.tools.lookup index = some sent.tool := by
    rw [h index, hopen]
    rfl
  exact completeTool_step h hopen (hagree sent hopen) hlookup rfl rfl (fun _ => rfl)
    (fun _ _ => rfl) hcomplete

/-- All open calls are completed. -/
theorem completeAllTools_step (h : Books parser ledger)
    (hagree : ∀ index sent, ledger index = some sent → sent.last = sent.first)
    (hcomplete : parser.completeAllTools fromStr = .ok (next, events)) :
    CallStep fromStr ledger events next fun _ => none := by
  have hall : ∀ (indices : List Nat) {parser : ProtocolParser} {ledger : Ledger}
      {events : List LlmEvent}, Books parser ledger →
      (∀ index sent, ledger index = some sent → sent.last = sent.first) →
      emitAll (ProtocolParser.completeTool fromStr) parser indices = .ok (next, events) →
      CallStep fromStr ledger events next
        fun index => if index ∈ indices then none else ledger index := by
    intro indices
    induction indices with
    | nil =>
      intro parser ledger events hbooks _ hnone
      cases hnone
      exact CallStep.quiet hbooks rfl fun _ => rfl
    | cons first rest ih =>
      intro parser ledger events hbooks hagree hsome
      obtain ⟨middle, emitted, later, hfirst, hrest, rfl⟩ := emitAll_cons_eq_ok.1 hsome
      have hstep := completeTool_step_self hbooks (hagree first) hfirst
      have hagree' : ∀ index sent, Function.update ledger first none index = some sent →
          sent.last = sent.first := by
        intro index sent hsent
        by_cases hindex : index = first
        · subst hindex
          rw [Function.update_self] at hsent
          cases hsent
        · rw [Function.update_of_ne hindex] at hsent
          exact hagree index sent hsent
      have htrans := hstep.trans (ih hstep.books hagree' hrest)
      have hledger : (fun index => if index ∈ rest then none
          else Function.update ledger first none index) =
          fun index => if index ∈ first :: rest then none else ledger index := by
        funext index
        by_cases hindex : index = first
        · subst hindex
          simp
        · simp [hindex]
      rwa [hledger] at htrans
  have hstep := hall _ h hagree hcomplete
  have hledger : (fun index => if index ∈ parser.tools.keys.insertionSort (· ≤ ·) then none
      else ledger index) = fun _ => none := by
    funext index
    by_cases hkey : index ∈ parser.tools.keys.insertionSort (· ≤ ·)
    · rw [if_pos hkey]
    · rw [if_neg hkey]
      rw [List.mem_insertionSort, ← AList.mem_keys, ← AList.lookup_eq_none, h index,
        Option.map_eq_none_iff] at hkey
      exact hkey
  rwa [hledger] at hstep

/-! ## Chat entries -/

theorem openTool_step (index : Nat) (id name : Option Text) (h : Books parser ledger) :
    CallStep fromStr ledger (parser.openTool index id name).2 (parser.openTool index id name).1
      (Function.update ledger index (some (Sent.entry (ledger index) id name))) := by
  unfold ProtocolParser.openTool
  cases hsent : ledger index with
  | none =>
    have hlookup : parser.tools.lookup index = none := by
      rw [h index, hsent]
      rfl
    simp only [hlookup]
    exact startTool_step _ _ h hsent
  | some sent =>
    have hlookup : parser.tools.lookup index = some sent.tool := by
      rw [h index, hsent]
      rfl
    simp only [hlookup]
    refine CallStep.at h ?_ ?_ (fun _ _ => rfl) ?_
    · rw [Table.lookup_modify, if_pos rfl, hlookup]
      rfl
    · intro other hother
      rw [Table.lookup_modify, if_neg hother]
    · rw [hsent]
      exact .refl _

theorem performChat_step (item : ChatItem) (h : Books parser ledger) :
    CallStep fromStr ledger (parser.performChat item).2 (parser.performChat item).1
      (item.send ledger) := by
  cases item with
  | text text index => exact CallStep.quiet h rfl fun i => callEvents_text i text index
  | pending reason => exact CallStep.quiet h rfl fun _ => rfl
  | toolCall index id name arguments =>
    have hopen : CallStep fromStr ledger (parser.openTool index id name).2
      (parser.openTool index id name).1 _ := openTool_step index id name h
    cases arguments with
    | none =>
      have hadd : (Sent.entry (ledger index) id name).add [] =
          Sent.entry (ledger index) id name := by
        simp [Sent.add]
      show CallStep fromStr ledger _ _
        (Function.update ledger index (some ((Sent.entry (ledger index) id name).add [])))
      rw [hadd]
      exact hopen
    | some delta =>
      have hpush := hopen.trans (pushArguments_step delta hopen.books
        (Function.update_self index _ ledger))
      rw [Function.update_idem] at hpush
      exact hpush

theorem performChat_steps (items : List ChatItem) (h : Books parser ledger) :
    CallStep fromStr ledger (emitEach ProtocolParser.performChat parser items).2
      (emitEach ProtocolParser.performChat parser items).1 (items.foldl ChatItem.send ledger) := by
  induction items generalizing parser ledger with
  | nil => exact CallStep.quiet h rfl fun _ => rfl
  | cons item items ih =>
    have hfirst : CallStep fromStr ledger _ _ _ := performChat_step item h
    exact hfirst.trans (ih hfirst.books)

/-! ## Gemini parts -/

/-- A call that starts and completes at once. -/
theorem performGemini_step (item : GeminiItem) (h : Books parser ledger)
    (hclosed : ∀ index, ledger index = none) :
    CallStep fromStr ledger (parser.performGemini item).2 (parser.performGemini item).1 ledger := by
  cases item with
  | text text index => exact CallStep.quiet h rfl fun i => callEvents_text i text index
  | pending reason => exact CallStep.quiet h rfl fun _ => rfl
  | call index id name arguments =>
    refine ⟨h, ?_⟩
    intro other
    by_cases hindex : index = other
    · subst hindex
      have hevents : callEvents index (parser.performGemini (.call index id name arguments)).2 =
          [.started id name] ++ [.completed id name arguments] := by
        simp [ProtocolParser.performGemini, callEvents, callEvent]
      rw [hevents, hclosed]
      exact (CallRun.start id name).trans (.complete ⟨id, name, []⟩ arguments fun h => absurd rfl h)
    · have hevents : callEvents other (parser.performGemini (.call index id name arguments)).2 =
          [] := by
        simp [ProtocolParser.performGemini, callEvents, callEvent, hindex]
      rw [hevents]
      exact .refl _

theorem performGemini_steps (items : List GeminiItem) (h : Books parser ledger)
    (hclosed : ∀ index, ledger index = none) :
    CallStep fromStr ledger (emitEach ProtocolParser.performGemini parser items).2
      (emitEach ProtocolParser.performGemini parser items).1 ledger := by
  induction items generalizing parser with
  | nil => exact CallStep.quiet h rfl fun _ => rfl
  | cons item items ih =>
    have hfirst : CallStep fromStr ledger _ _ _ := performGemini_step item h hclosed
    exact hfirst.trans (ih hfirst.books)

/-! ## Readings -/

/-- Arguments that come with the completion. -/
theorem fillArguments_step {arguments : Option Text} (h : Books parser ledger) (hclean : ∀ sent,
      ledger index = some sent → sent.last = sent.first ∧ (sent.fragments = [] ∨
      sent.fragments.flatten ≠ [] ∨ ∀ given, arguments = some given → toolArguments fromStr given
      = some (.object []))) (hcomplete : (parser.fillArguments index arguments).completeTool
      fromStr index = .ok (next, events)) :
    CallStep fromStr ledger events next (Function.update ledger index none) := by
  cases arguments with
  | none => exact completeTool_step_self h (fun sent hsent => (hclean sent hsent).1) hcomplete
  | some given =>
    obtain ⟨tool, -, htool, -⟩ := ProtocolParser.completeTool_eq_ok.1 hcomplete
    have hothers : ∀ other, other ≠ index →
        (parser.fillArguments index (some given)).tools.lookup other =
          parser.tools.lookup other := by
      intro other hother
      unfold ProtocolParser.fillArguments
      rw [Table.lookup_modify, if_neg hother]
    have hfilled := htool
    unfold ProtocolParser.fillArguments at hfilled
    rw [Table.lookup_modify, if_pos rfl, h index, Option.map_map, Option.map_eq_some_iff] at hfilled
    obtain ⟨sent, hopen, htool'⟩ := hfilled
    obtain ⟨hagree, harguments⟩ := hclean sent hopen
    subst htool'
    by_cases hempty : sent.fragments.flatten = []
    · have hlookup : (parser.fillArguments index (some given)).tools.lookup index =
          some ⟨sent.last.1, sent.last.2, given⟩ := by
        rw [htool]
        simp only [Function.comp, Sent.tool, hempty, List.isEmpty_nil, if_true]
      refine completeTool_step h hopen hagree hlookup rfl rfl ?_ hothers hcomplete
      intro hfragments
      have hgiven := (harguments.resolve_left hfragments).resolve_left (absurd hempty) given rfl
      rw [hgiven, hempty]
      rfl
    · have hne : sent.fragments.flatten.isEmpty = false := by
        rw [List.isEmpty_eq_false_iff]
        exact hempty
      have hlookup : (parser.fillArguments index (some given)).tools.lookup index =
          some sent.tool := by
        rw [htool]
        simp only [Function.comp, Sent.tool, hne, Bool.false_eq_true, if_false]
      exact completeTool_step h hopen hagree hlookup rfl rfl (fun _ => rfl) hothers hcomplete

variable {reading : Reading}

/-- **What a clean reading does.** The readings of Gemini find no call open. -/
theorem perform_step (h : Books parser ledger) (hclean : reading.Clean fromStr parser.tools ledger)
    (hgemini : ∀ items usage, reading = .response items usage → ∀ index, ledger index = none)
    (hperform : parser.perform fromStr reading = .ok (next, events)) :
    CallStep fromStr ledger events next (reading.send ledger) := by
  cases reading with
  | announce requestId usage =>
    cases hperform
    exact CallStep.quiet h rfl fun index => callEvents_usage index usage
  | text text contentIndex =>
    cases hperform
    refine CallStep.quiet h (ensureStarted_tools parser) ?_
    intro index
    rw [callEvents_append, callEvents_started, callEvents_text]
    rfl
  | start index id name arguments =>
    have hclosed : ledger index = none := by
      have hlookup : parser.tools.lookup index = none := hclean
      rw [h index, Option.map_eq_none_iff] at hlookup
      exact hlookup
    have hopened : CallStep fromStr ledger _ _ _ := startTool_step id name h hclosed
    have hsend : (Reading.start index id name arguments).send ledger =
        Function.update ledger index
          (some ⟨(id, name), (id, name), if arguments.isEmpty then [] else [arguments]⟩) := rfl
    unfold ProtocolParser.perform at hperform
    simp only at hperform
    split_ifs at hperform with hempty
    · cases hperform
      rw [hsend, if_pos hempty]
      exact hopened
    · cases hperform
      have hpush := hopened.trans
        (pushArguments_step arguments hopened.books (Function.update_self index _ ledger))
      rw [Function.update_idem] at hpush
      rw [hsend, if_neg hempty]
      exact hpush
  | delta index fragment =>
    obtain ⟨⟨tool, htool⟩, rfl, rfl⟩ := ProtocolParser.toolDelta_eq_ok.1 hperform
    rw [h index, Option.map_eq_some_iff] at htool
    obtain ⟨sent, hopen, -⟩ := htool
    have hsend : (Reading.delta index fragment).send ledger =
        Function.update ledger index (some (sent.add [fragment])) := by
      show Function.update ledger index ((ledger index).map _) = _
      rw [hopen]
      rfl
    rw [hsend]
    exact pushArguments_step fragment h hopen
  | complete index arguments => exact fillArguments_step h hclean hperform
  | close index =>
    unfold ProtocolParser.perform at hperform
    simp only at hperform
    split at hperform
    · exact completeTool_step_self h hclean hperform
    · next hclosed =>
      cases hperform
      have hnone : ledger index = none := by
        rw [Option.not_isSome_iff_eq_none, h index, Option.map_eq_none_iff] at hclosed
        exact hclosed
      have hsame : (Reading.close index).send ledger = ledger := by
        show Function.update ledger index none = ledger
        rw [← hnone, Function.update_eq_self]
      rw [hsame]
      exact CallStep.quiet h rfl fun _ => rfl
  | pending reason usage =>
    cases hperform
    exact CallStep.quiet h rfl fun index => callEvents_usage index usage
  | finish reason providerReason usage =>
    cases hperform
    refine CallStep.quiet h rfl ?_
    intro index
    rw [callEvents_append, callEvents_usage]
    rfl
  | stop =>
    cases hperform
    exact CallStep.quiet h rfl fun _ => rfl
  | ending reason usage =>
    obtain ⟨-, hok⟩ := check_eq_ok.1 hperform
    cases hok
    refine CallStep.quiet h rfl ?_
    intro index
    rw [callEvents_append, callEvents_usage]
    unfold cohereEnding
    split_ifs <;> rfl
  | done =>
    obtain ⟨⟨middle, completed⟩, hall, hok⟩ := bind_eq_ok.1 hperform
    cases hok
    have hstep := completeAllTools_step h hclean hall
    exact hstep.trans (CallStep.quiet hstep.books rfl fun _ => rfl)
  | response items usage =>
    have hclosed := hgemini items usage rfl
    have hbooks : Books parser.ensureStarted.1 ledger := by
      intro index
      rw [ensureStarted_tools, h index]
    have hstarted : CallStep fromStr ledger parser.ensureStarted.2 parser.ensureStarted.1 ledger :=
      CallStep.quiet h (ensureStarted_tools parser) fun index => callEvents_started index parser
    have hitems : CallStep fromStr ledger _ _ ledger := performGemini_steps items hbooks hclosed
    have hshown := hstarted.trans hitems
    have husage : CallStep fromStr ledger (usageEvents usage) _ ledger :=
      CallStep.quiet hshown.books rfl fun index => callEvents_usage index usage
    unfold ProtocolParser.perform at hperform
    simp only at hperform
    split at hperform
    · cases hperform
      exact (hshown.trans husage).trans (CallStep.quiet husage.books rfl fun _ => rfl)
    · cases hperform
      exact hshown.trans husage
  | chunk requestId items usage =>
    cases hperform
    have hstarted : CallStep fromStr ledger
        (if parser.started then [] else [.started requestId]) { parser with started := true }
          ledger := by
      refine CallStep.quiet h rfl ?_
      intro index
      split_ifs <;> rfl
    have hitems : CallStep fromStr ledger _ _ _ := performChat_steps items hstarted.books
    exact (hstarted.trans hitems).trans
      (CallStep.quiet hitems.books rfl fun index => callEvents_usage index usage)
  | failed error =>
    cases hperform
    exact CallStep.quiet h rfl fun _ => rfl
  | ignored =>
    cases hperform
    exact CallStep.quiet h rfl fun _ => rfl

/-! ## The end of a message -/

theorem Books.closed (h : Books parser ledger) (hnone : parser.tools.entries = []) (index : Nat) :
    ledger index = none := by
  have hlookup : parser.tools.lookup index = none := by
    rw [AList.lookup_eq_none, AList.mem_keys, AList.keys, hnone]
    simp
  rw [h index, Option.map_eq_none_iff] at hlookup
  exact hlookup

theorem content_terminal {event : LlmEvent} (h : event ∈ reading.content) :
    event.terminal = false := by
  have husage (usage : Option TokenUsage) (h : event ∈ usageEvents usage) :
      event.terminal = false :=
    (usageEvents_inner usage event h).1.2
  have htext (text : Text) (index : Nat) (h : event ∈ textEvents text index) :
      event.terminal = false :=
    (textEvents_inner text index event h).2
  cases reading with
  | announce _ usage | pending _ usage | finish _ _ usage | ending _ usage => exact husage usage h
  | text text index => exact htext text index h
  | response items usage | chunk _ items usage =>
    rcases List.mem_append.1 h with hitems | hlast
    · obtain ⟨item, -, hitem⟩ := List.mem_flatMap.1 hitems
      cases item <;> first | exact htext _ _ hitem | cases hitem
    · exact husage usage hlast
  | start | delta | complete | close | stop | done | failed | ignored => cases h

/-- What does not end the stream emits no end. -/
theorem perform_going (hends : reading.ends = false)
    (h : parser.perform fromStr reading = .ok (next, events)) :
    ∀ event ∈ events, event.terminal = false := by
  intro event hevent
  by_contra hterminal
  have hcourse : ∀ event : LlmEvent, event.isCourse = true →
      (if event.terminal then [event] else []) = [] := by
    intro event hevent
    cases event <;> first | rfl | cases hevent
  have hmem : event ∈ events.flatMap fun event => if event.terminal then [event] else [] :=
    List.mem_flatMap.2 ⟨event, hevent, by simp [hterminal]⟩
  rw [ProtocolParser.perform_sees hcourse (by simp [hends]) h] at hmem
  obtain ⟨other, hother, hmem⟩ := List.mem_flatMap.1 hmem
  rw [content_terminal hother] at hmem
  cases hmem

/-- **A message finishes when no call is open.** -/
theorem perform_finished (h : Books parser ledger)
    (hclean : reading.Clean fromStr parser.tools ledger)
    (hgemini : ∀ items usage, reading = .response items usage → ∀ index, ledger index = none)
    (hperform : parser.perform fromStr reading = .ok (next, events)) {reason : FinishReason}
    {providerReason : Text} (hlast : events.getLast? = some (.finished reason providerReason))
    (index : Nat) : reading.send ledger index = none := by
  cases reading with
  | finish reason providerReason usage => exact h.closed hclean index
  | stop => exact h.closed hclean index
  | ending reason usage =>
    obtain ⟨hnone, -⟩ := check_eq_ok.1 hperform
    exact h.closed (List.isEmpty_iff.1 (require_eq_ok.1 hnone)) index
  | done => rfl
  | response items usage => exact hgemini items usage rfl index
  | failed error =>
    cases hperform
    cases hlast
  | announce | text | start | delta | complete | close | pending | chunk | ignored =>
    have hgoing := perform_going rfl hperform _ (List.mem_of_getLast? hlast)
    cases hgoing

/-! ## Runs -/

variable {providerId : Text} {frame : SseFrame}

/-- Gemini only responds, or reports an error. -/
theorem read_gemini (h : read providerId fromStr .geminiGenerateContent frame = .ok reading) :
    (∃ items usage, reading = .response items usage) ∨ ∃ error, reading = .failed error := by
  obtain ⟨value, -, hrest⟩ := bind_eq_ok.1 h
  unfold readGemini at hrest
  split_ifs at hrest
  · cases hrest
    exact .inr ⟨_, rfl⟩
  · obtain ⟨items, -, hok⟩ := bind_eq_ok.1 hrest
    cases hok
    exact .inl ⟨_, _, rfl⟩

def Reading.isResponse : Reading → Bool
  | .response _ _ => true
  | _ => false

/-- Only Gemini responds. -/
theorem read_isResponse {protocol : ProviderProtocol} (hother : protocol ≠ .geminiGenerateContent) :
    Returns (read providerId fromStr protocol frame) fun reading => reading.isResponse = false := by
  cases protocol with
  | geminiGenerateContent => exact absurd rfl hother
  | openAiResponses =>
    refine returns_bind.2 fun value _ => returns_bind.2 fun eventType _ => ?_
    cases ResponsesType.ofName eventType <;>
      simp only [returns_bind, returns_ite, returns_ok, Reading.isResponse, reported, implies_true,
        and_self]
  | anthropicMessages =>
    refine returns_bind.2 fun value _ => returns_bind.2 fun eventType _ => ?_
    cases MessagesType.ofName eventType <;>
      simp only [returns_bind, returns_ite, returns_ok, Reading.isResponse, reported, implies_true,
        and_self]
  | cohereChat =>
    refine returns_bind.2 fun value _ => returns_bind.2 fun eventType _ => ?_
    cases CohereType.ofName eventType with
    | contentDelta =>
      refine returns_bind.2 fun content _ => ?_
      cases strAt content ["text"] with
      | some text => exact returns_ok.2 rfl
      | none => exact returns_bind.2 fun _ _ => returns_ok.2 rfl
    | _ =>
      simp only [returns_bind, returns_ok, Reading.isResponse, reported, implies_true]
  | openAiChatCompletions | nvidiaNimChat =>
    intro reading h
    unfold read readChat at h
    simp only at h
    split_ifs at h
    · cases h
      rfl
    · obtain ⟨value, -, rfl⟩ := map_eq_ok.1 h
      unfold readChunk reported
      split_ifs <;> rfl

/-- What holds along a run. Until the stream ends the books are kept, and the calls of Gemini are
closed; where it ended with a `Finished`, every call is closed. -/
structure CallsInv (fromStr : Text → Option Value) (providerId : Text)
    (protocol : ProviderProtocol) (steps : List (SseFrame × List LlmEvent))
    (parser : ProtocolParser) : Prop where
  provider : parser.providerId = providerId
  dialect : parser.protocol = protocol
  going : parser.terminal = false → (∀ event ∈ outputs steps, event.terminal = false) ∧
    CallStep fromStr (fun _ => none) (outputs steps) parser
      (sentBy fromStr providerId protocol (steps.map Prod.fst)) ∧
    (protocol = .geminiGenerateContent →
      sentBy fromStr providerId protocol (steps.map Prod.fst) = fun _ => none)
  ended : parser.terminal = true → ∀ reason providerReason,
    (outputs steps).getLast? = some (.finished reason providerReason) →
      ∀ index, CallRun fromStr none (callEvents index (outputs steps)) none

theorem callsInv_new (providerId : Text) (protocol : ProviderProtocol) :
    CallsInv fromStr providerId protocol [] (ProtocolParser.new providerId protocol) := by
  refine ⟨rfl, rfl, fun _ => ⟨fun event hevent => (nomatch hevent), ⟨fun _ => rfl, fun _ => .refl _⟩,
    fun _ => rfl⟩, fun h => nomatch h⟩

theorem outputs_concat (steps : List (SseFrame × List LlmEvent)) (frame : SseFrame)
    (events : List LlmEvent) :
    outputs (steps ++ [(frame, events)]) = outputs steps ++ events := by
  simp [outputs]

theorem callsInv_step {protocol : ProviderProtocol} {steps : List (SseFrame × List LlmEvent)}
    (h : CallsInv fromStr providerId protocol steps parser)
    (hstep : parser.parse fromStr frame = .ok (next, events))
    (hclean : CleanFrame fromStr (steps.map Prod.fst) parser frame) :
    CallsInv fromStr providerId protocol (steps ++ [(frame, events)]) next := by
  obtain ⟨rfl, rfl, hgoing, hended⟩ := h
  rcases ProtocolParser.parse_eq_ok.1 hstep with
    ⟨hterminal, rfl, rfl⟩ | ⟨hterminal, reading, middle, hread, hperform, hnext⟩
  · refine ⟨rfl, rfl, ?_, ?_⟩
    · intro hopen
      rw [hterminal] at hopen
      cases hopen
    · rw [outputs_concat, List.append_nil]
      exact hended
  · obtain ⟨hinner, hcalls, hgemini⟩ := hgoing hterminal
    have hreading := hclean hterminal reading hread
    have hclosed : ∀ items usage, reading = .response items usage → ∀ index,
        sentBy fromStr parser.providerId parser.protocol (steps.map Prod.fst) index = none := by
      rintro items usage rfl index
      have hprotocol : parser.protocol = .geminiGenerateContent := by
        by_contra hother
        cases read_isResponse hother _ hread
      rw [hgemini hprotocol]
    have hsent : sentBy fromStr parser.providerId parser.protocol
        ((steps ++ [(frame, events)]).map Prod.fst) =
        reading.send (sentBy fromStr parser.providerId parser.protocol (steps.map Prod.fst)) := by
      rw [List.map_append, List.map_singleton, sentBy, List.foldl_append]
      simp only [List.foldl_cons, List.foldl_nil, hread]
      rfl
    have hmove := perform_step hcalls.books hreading hclosed hperform
    obtain ⟨hproviderId, hprotocol, -, hends⟩ :=
      ProtocolParser.next_fields (ProtocolParser.perform_performs hperform) hnext
    rw [hterminal, Bool.false_or] at hends
    have htools : next.tools = middle.tools := by
      rw [hnext]
      split_ifs <;> rfl
    have hwhole := hcalls.trans
      (⟨fun index => htools ▸ hmove.books index, hmove.run⟩ :
        CallStep fromStr _ events next _)
    refine ⟨hproviderId, hprotocol, ?_, ?_⟩
    · intro hopen
      rw [hends, List.any_eq_false] at hopen
      rw [outputs_concat, hsent]
      refine ⟨?_, hwhole, ?_⟩
      · intro event hevent
        rcases List.mem_append.1 hevent with hold | hnew
        · exact hinner event hold
        · exact Bool.eq_false_iff.2 (hopen event hnew)
      · intro hprotocol'
        rw [hgemini hprotocol']
        rw [hprotocol'] at hread
        rcases read_gemini hread with ⟨items, usage, rfl⟩ | ⟨error, rfl⟩ <;> rfl
    · intro hover reason providerReason hlast index
      rw [outputs_concat] at hlast ⊢
      have hemitted : events ≠ [] := by
        rintro rfl
        rw [hends] at hover
        cases hover
      rw [List.getLast?_append_of_ne_nil _ hemitted] at hlast
      have hnone := perform_finished hcalls.books hreading hclosed hperform hlast index
      have hrun := hwhole.run index
      rw [hnone] at hrun
      exact hrun

/-- **Tool calls are bracketed.** In a stream of clean frames that ends in `Finished`, what is said
about every index is call after call. -/
theorem tool_calls_bracketed (fromStr : Text → Option Value) (providerId : Text)
    (protocol : ProviderProtocol) (frames : List SseFrame) {final : ProtocolParser}
    {events : List LlmEvent} {reason : FinishReason} {providerReason : Text}
    (h : emitAll (ProtocolParser.parse fromStr) (ProtocolParser.new providerId protocol) frames =
      .ok (final, events ++ [.finished reason providerReason]))
    (hclean : EmitAlong (ProtocolParser.parse fromStr) (CleanFrame fromStr) []
      (ProtocolParser.new providerId protocol) frames) :
    ∀ index, Bracketed fromStr (callEvents index events) := by
  intro index
  obtain ⟨-, houtputs⟩ := emitRun_of_ok h
  obtain ⟨last, hinv⟩ := EmitAlong.inv (CallsInv fromStr providerId protocol)
    (fun steps parser frame next out hinv hstep hframe => callsInv_step hinv hstep hframe)
    (callsInv_new providerId protocol) hclean
  rw [List.nil_append] at hinv
  have hlast : (outputs (emitRun (ProtocolParser.parse fromStr)
      (ProtocolParser.new providerId protocol) frames)).getLast? =
      some (.finished reason providerReason) := by
    rw [houtputs]
    exact List.getLast?_concat
  have hover : last.terminal = true := by
    cases hterminal : last.terminal with
    | true => rfl
    | false =>
      have hinner := (hinv.going hterminal).1 _ (List.mem_of_getLast? hlast)
      cases hinner
  have hrun := hinv.ended hover reason providerReason hlast index
  rw [houtputs, callEvents_append, show callEvents index [.finished reason providerReason] = [] from
    rfl, List.append_nil] at hrun
  exact hrun.bracketed

/-! ### One call, and a call that is left open -/

/-- A whole call in one chunk. -/
def chatCallFrame : SseFrame where
  event := none
  data := ("\x7b\"id\":\"x\",\"choices\":[\x7b\"index\":0,\"delta\":\x7b\"tool_calls\":[" ++
    "\x7b\"index\":0,\"id\":\"c\",\"function\":\x7b\"name\":\"lookup\"," ++
    "\"arguments\":\"\x7b\x7d\"\x7d\x7d]\x7d\x7d]\x7d").toList

def chatDoneFrame : SseFrame := ⟨none, "[DONE]".toList⟩

/-- The JSON of the chunk and of the arguments in it. -/
def chatCallJson (data : Text) : Option Value :=
  if data = chatCallFrame.data then
    some (.object
      [("id".toList, .string "x".toList),
        ("choices".toList, .array [.object
          [("index".toList, .number (.posInt 0)),
            ("delta".toList, .object [("tool_calls".toList, .array [.object
              [("index".toList, .number (.posInt 0)),
                ("id".toList, .string "c".toList),
                ("function".toList, .object
                  [("name".toList, .string "lookup".toList),
                    ("arguments".toList, .string "\x7b\x7d".toList)])]])])]])])
  else if data = "\x7b\x7d".toList then some (.object [])
  else none

set_option maxRecDepth 8000 in
theorem tool_calls_bracketed_oneCall :
    Bracketed chatCallJson (callEvents 0
      [.started (some "x".toList), .toolCallStarted 0 "c".toList "lookup".toList,
        .toolCallDelta 0 "\x7b\x7d".toList,
        .toolCallCompleted 0 "c".toList "lookup".toList (.object [])]) := by
  have hrun : emitAll (ProtocolParser.parse chatCallJson)
      (ProtocolParser.new "chat".toList .openAiChatCompletions) [chatCallFrame, chatDoneFrame] =
      .ok (_, [.started (some "x".toList), .toolCallStarted 0 "c".toList "lookup".toList,
        .toolCallDelta 0 "\x7b\x7d".toList,
        .toolCallCompleted 0 "c".toList "lookup".toList (.object [])] ++
        [.finished .endTurn "stop".toList]) := rfl
  have hsent : sentBy chatCallJson "chat".toList .openAiChatCompletions [chatCallFrame] =
      Function.update (fun _ => none) 0 (some ⟨("c".toList, "lookup".toList),
        ("c".toList, "lookup".toList), ["\x7b\x7d".toList]⟩) := rfl
  refine tool_calls_bracketed chatCallJson "chat".toList .openAiChatCompletions
    [chatCallFrame, chatDoneFrame] hrun ⟨?_, ?_, trivial⟩ 0
  · intro _ reading hread
    cases hread
    trivial
  · intro _ reading hread
    cases hread
    intro index sent hindex
    have hindex' : sentBy chatCallJson "chat".toList .openAiChatCompletions [chatCallFrame] index =
      some sent := hindex
    rw [hsent] at hindex'
    by_cases hzero : index = 0
    · rw [hzero, Function.update_self] at hindex'
      cases hindex'
      rfl
    · rw [Function.update_of_ne hzero] at hindex'
      cases hindex'

/-- A message that ends while a call is open, as Anthropic sends it. -/
def messageStopFrame : SseFrame where
  event := some "message_stop".toList
  data := "\x7b\"type\":\"message_stop\"\x7d".toList

def openCallJson (data : Text) : Option Value :=
  if data = messageStopFrame.data then
    some (.object [("type".toList, .string "message_stop".toList)])
  else toolUseJson data

theorem call_left_open :
    ¬ ∀ (fromStr : Text → Option Value) (providerId : Text) (protocol : ProviderProtocol)
      (frames : List SseFrame) (final : ProtocolParser) (events : List LlmEvent)
      (reason : FinishReason) (providerReason : Text),
      emitAll (ProtocolParser.parse fromStr) (ProtocolParser.new providerId protocol) frames =
        .ok (final, events ++ [.finished reason providerReason]) →
      ∀ index, Bracketed fromStr (callEvents index events) := by
  intro h
  have hrun : emitAll (ProtocolParser.parse openCallJson)
      (ProtocolParser.new "anthropic".toList .anthropicMessages)
      [toolUseFrame, messageStopFrame] =
      .ok (_, [.toolCallStarted 1 "call-1".toList "lookup".toList] ++
        [.finished .endTurn "end_turn".toList]) := rfl
  obtain ⟨calls, hcalls, -⟩ := h openCallJson _ _ _ _ _ _ _ hrun 1
  rw [callEvents_start] at hcalls
  -- One event is no whole call.
  have hlength := congrArg List.length hcalls
  cases calls with
  | nil => cases hcalls
  | cons call calls => simp [Call.events] at hlength

end NpcRuntime.Llm
