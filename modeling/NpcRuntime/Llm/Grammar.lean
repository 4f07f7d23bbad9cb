import NpcRuntime.Llm.Texts

/-!
# The grammar of the event stream

A consumer may expect of the events of a stream that nothing follows a terminal one, that there is
one `Started` at most and that it comes before text, tool calls and the end, and that the text is that
of the frames. Text and end keep to it in every run. A `Started` does not in two ways: a frame that
announces the message emits it again, and tool calls and the end of a message do not start it, as
text does. `event_stream_grammar_iff` says that these are the only ways.
-/

namespace NpcRuntime.Llm

open Json Text

/-! ## The grammar -/

namespace LlmEvent

def isStarted : LlmEvent → Bool
  | .started _ => true
  | _ => false

/-- What a `Started` has to come before. -/
def needsStart : LlmEvent → Bool
  | .textDelta _ _ | .toolCallStarted _ _ _ | .finished _ _ => true
  | _ => false

end LlmEvent

structure Grammar (events : List LlmEvent) : Prop where
  terminal : ∀ before event after, events = before ++ event :: after → event.terminal = true →
    after = []
  started : (events.filter LlmEvent.isStarted).length ≤ 1
  order : ∀ before event after, events = before ++ event :: after → event.needsStart = true →
    ∃ first ∈ before, first.isStarted = true

/-- The frames up to the first one with a terminal event. -/
def upToTerminal : List (SseFrame × List LlmEvent) → List SseFrame
  | [] => []
  | step :: rest =>
    step.1 :: if step.2.any LlmEvent.terminal then [] else upToTerminal rest

/-! ## The condition -/

namespace Reading

/-- The message is announced, which emits a `Started`. -/
def announces : Reading → Bool
  | .announce _ _ => true
  | _ => false

/-- A tool call starts or the message finishes, which does not emit one. -/
def needsStart : Reading → Bool
  | .start _ _ _ _ | .finish _ _ _ | .stop | .done => true
  | .ending reason _ => !isFailure reason
  | _ => false

end Reading

/-- A message is announced only if it has not started, and tool calls start and the message finishes
only if it has. -/
def Reading.InOrder (started : Bool) (reading : Reading) : Prop :=
  (reading.announces = true → started = false) ∧ (reading.needsStart = true → started = true)

/-- What a frame says before the end of the stream is in order. -/
def InOrder (fromStr : Text → Option Value) (parser : ProtocolParser) (frame : SseFrame) : Prop :=
  parser.terminal = false → ∀ reading,
    read parser.providerId fromStr parser.protocol frame = .ok reading →
      reading.InOrder parser.started

/-! ## Admissible events -/

/-- The events that may follow; `started` says whether a `Started` came before. -/
def Admissible : Bool → List LlmEvent → Prop
  | _, [] => True
  | started, event :: events =>
    (event.isStarted = true → started = false) ∧ (event.needsStart = true → started = true) ∧
      (event.terminal = true → events = []) ∧ Admissible (started || event.isStarted) events

variable {started : Bool}

theorem admissible_append {events more : List LlmEvent} :
    Admissible started (events ++ more) ↔ Admissible started events ∧
      (events.any LlmEvent.terminal = true → more = []) ∧
        Admissible (started || events.any LlmEvent.isStarted) more := by
  induction events generalizing started with
  | nil => simp [Admissible]
  | cons event events ih =>
    simp only [List.cons_append, Admissible, ih, List.any_cons, Bool.or_assoc, Bool.or_eq_true,
      List.append_eq_nil_iff]
    tauto

variable {events : List LlmEvent}

theorem terminal_last_cons {event : LlmEvent} :
    (∀ before e after, event :: events = before ++ e :: after → e.terminal = true → after = []) ↔
      (event.terminal = true → events = []) ∧
        ∀ before e after, events = before ++ e :: after → e.terminal = true → after = [] := by
  constructor
  · intro h
    refine ⟨h [] event events rfl, ?_⟩
    intro before e after hsplit
    exact h (event :: before) e after (by rw [hsplit, List.cons_append])
  · rintro ⟨hfirst, hrest⟩ before e after hsplit
    cases before with
    | nil =>
      obtain ⟨rfl, rfl⟩ := List.cons.inj hsplit
      exact hfirst
    | cons first before => exact hrest before e after (List.cons.inj hsplit).2

theorem started_first_cons {event : LlmEvent} :
    (∀ before e after, event :: events = before ++ e :: after → e.needsStart = true →
        started = true ∨ ∃ first ∈ before, first.isStarted = true) ↔
      (event.needsStart = true → started = true) ∧
        ∀ before e after, events = before ++ e :: after → e.needsStart = true →
          (started || event.isStarted) = true ∨ ∃ first ∈ before, first.isStarted = true := by
  constructor
  · intro h
    refine ⟨fun hneeds => (h [] event events rfl hneeds).resolve_right (by simp), ?_⟩
    intro before e after hsplit hneeds
    have hbefore := h (event :: before) e after (by rw [hsplit, List.cons_append]) hneeds
    rw [List.exists_mem_cons_iff] at hbefore
    rw [Bool.or_eq_true]
    tauto
  · rintro ⟨hfirst, hrest⟩ before e after hsplit hneeds
    cases before with
    | nil =>
      obtain ⟨rfl, rfl⟩ := List.cons.inj hsplit
      exact .inl (hfirst hneeds)
    | cons first before =>
      obtain ⟨rfl, hrest'⟩ := List.cons.inj hsplit
      have hlater := hrest before e after hrest' hneeds
      rw [Bool.or_eq_true] at hlater
      rw [List.exists_mem_cons_iff]
      tauto

theorem admissible_iff :
    Admissible started events ↔
      (∀ before event after, events = before ++ event :: after → event.terminal = true →
        after = []) ∧
      (events.filter LlmEvent.isStarted).length + started.toNat ≤ 1 ∧
      ∀ before event after, events = before ++ event :: after → event.needsStart = true →
        started = true ∨ ∃ first ∈ before, first.isStarted = true := by
  induction events generalizing started with
  | nil =>
    have hnone : ∀ (before : List LlmEvent) event after, [] ≠ before ++ event :: after := by simp
    refine ⟨fun _ => ⟨?_, ?_, ?_⟩, fun _ => trivial⟩
    · exact fun before event after h => absurd h (hnone before event after)
    · cases started <;> simp
    · exact fun before event after h => absurd h (hnone before event after)
  | cons event events ih =>
    have hcount : ((event :: events).filter LlmEvent.isStarted).length + started.toNat ≤ 1 ↔
        (event.isStarted = true → started = false) ∧
          (events.filter LlmEvent.isStarted).length + (started || event.isStarted).toNat ≤ 1 := by
      cases hstarted : event.isStarted <;> cases started <;> simp [hstarted]
    rw [Admissible, ih, terminal_last_cons, started_first_cons, hcount]
    tauto

theorem grammar_iff : Grammar events ↔ Admissible false events := by
  rw [admissible_iff]
  constructor
  · intro h
    exact ⟨h.terminal, h.started, fun before event after hsplit hneeds =>
      .inr (h.order before event after hsplit hneeds)⟩
  · rintro ⟨hterminal, hstarted, horder⟩
    refine ⟨hterminal, hstarted, ?_⟩
    intro before event after hsplit hneeds
    exact (horder before event after hsplit hneeds).resolve_left (by simp)

/-! ## What a reading emits -/

namespace LlmEvent

/-- An event that neither starts nor ends the stream. -/
def Inner (event : LlmEvent) : Prop := event.isStarted = false ∧ event.terminal = false

end LlmEvent

theorem any_started_inner (h : ∀ event ∈ events, event.Inner) :
    events.any LlmEvent.isStarted = false := by
  rw [List.any_eq_false]
  intro event hevent
  rw [(h event hevent).1]
  simp

theorem any_terminal_inner (h : ∀ event ∈ events, event.Inner) :
    events.any LlmEvent.terminal = false := by
  rw [List.any_eq_false]
  intro event hevent
  rw [(h event hevent).2]
  simp

/-- Inner events are admissible where they are after the start, or do not need one. -/
theorem admissible_inner
    (h : ∀ event ∈ events, event.Inner ∧ (event.needsStart = true → started = true)) :
    Admissible started events := by
  induction events with
  | nil => trivial
  | cons event events ih =>
    obtain ⟨⟨hinner, hneeds⟩, hrest⟩ := List.forall_mem_cons.1 h
    refine ⟨?_, hneeds, ?_, ?_⟩
    · rw [hinner.1]
      simp
    · rw [hinner.2]
      simp
    · rw [hinner.1, Bool.or_false]
      exact ih hrest

theorem usageEvents_inner (usage : Option TokenUsage) :
    ∀ event ∈ usageEvents usage, event.Inner ∧ event.needsStart = false := by
  intro event hevent
  obtain ⟨value, -, rfl⟩ := List.mem_map.1 hevent
  exact ⟨⟨rfl, rfl⟩, rfl⟩

theorem textEvents_inner (text : Text) (index : Nat) :
    ∀ event ∈ textEvents text index, event.Inner := by
  intro event hevent
  cases htext : text.isEmpty with
  | true =>
    rw [textEvents, htext] at hevent
    cases hevent
  | false =>
    rw [ProtocolParser.textEvents_of_ne htext, List.mem_singleton] at hevent
    subst hevent
    exact ⟨rfl, rfl⟩

namespace ProtocolParser

/-- Only the tools and the pending reason differ. -/
structure SameStream (parser next : ProtocolParser) : Prop where
  providerId : next.providerId = parser.providerId
  protocol : next.protocol = parser.protocol
  started : next.started = parser.started
  terminal : next.terminal = parser.terminal

variable {fromStr : Text → Option Value} {parser next : ProtocolParser} {events : List LlmEvent}

theorem SameStream.trans {final : ProtocolParser} (h : SameStream parser next)
    (h' : SameStream next final) : SameStream parser final :=
  ⟨h'.1.trans h.1, h'.2.trans h.2, h'.3.trans h.3, h'.4.trans h.4⟩

theorem completeTool_inner {index : Nat}
    (h : parser.completeTool fromStr index = .ok (next, events)) :
    SameStream parser next ∧
      ∀ event ∈ events, event.Inner ∧ event.needsStart = false := by
  obtain ⟨tool, arguments, -, -, rfl, rfl⟩ := completeTool_eq_ok.1 h
  refine ⟨⟨rfl, rfl, rfl, rfl⟩, ?_⟩
  intro event hevent
  rw [List.mem_singleton] at hevent
  subst hevent
  exact ⟨⟨rfl, rfl⟩, rfl⟩

theorem completeAllTools_inner (h : parser.completeAllTools fromStr = .ok (next, events)) :
    SameStream parser next ∧
      ∀ event ∈ events, event.Inner ∧ event.needsStart = false :=
  emitAll_inv (SameStream parser) _ (fun _ _ _ _ hsame hstep =>
    ⟨hsame.trans (completeTool_inner hstep).1, (completeTool_inner hstep).2⟩) h
      ⟨rfl, rfl, rfl, rfl⟩

theorem performGemini_same (item : GeminiItem) :
    SameStream parser (parser.performGemini item).1 := by
  cases item <;> exact ⟨rfl, rfl, rfl, rfl⟩

theorem performGemini_inner (parser : ProtocolParser) (item : GeminiItem) :
    ∀ event ∈ (parser.performGemini item).2, event.Inner := by
  cases item with
  | text text index => exact textEvents_inner text index
  | call index id name arguments =>
    intro event hevent
    rcases List.mem_pair.1 hevent with rfl | rfl <;> exact ⟨rfl, rfl⟩
  | pending reason => exact fun event hevent => nomatch hevent

theorem openTool_same (index : Nat) (id name : Option Text) :
    SameStream parser (parser.openTool index id name).1 := by
  unfold openTool
  cases parser.tools.lookup index <;> exact ⟨rfl, rfl, rfl, rfl⟩

theorem openTool_inner (index : Nat) (id name : Option Text) :
    ∀ event ∈ (parser.openTool index id name).2, event.Inner := by
  unfold openTool
  cases parser.tools.lookup index with
  | none =>
    intro event hevent
    rw [List.mem_singleton.1 hevent]
    exact ⟨rfl, rfl⟩
  | some tool => exact fun event hevent => nomatch hevent

theorem performChat_same (item : ChatItem) : SameStream parser (parser.performChat item).1 := by
  cases item with
  | text text index => exact ⟨rfl, rfl, rfl, rfl⟩
  | toolCall index id name arguments =>
    cases arguments with
    | none => exact openTool_same index id name
    | some delta => exact (openTool_same index id name).trans ⟨rfl, rfl, rfl, rfl⟩
  | pending reason => exact ⟨rfl, rfl, rfl, rfl⟩

theorem performChat_inner (parser : ProtocolParser) (item : ChatItem) :
    ∀ event ∈ (parser.performChat item).2, event.Inner := by
  cases item with
  | text text index => exact textEvents_inner text index
  | toolCall index id name arguments =>
    cases arguments with
    | none => exact openTool_inner index id name
    | some delta =>
      intro event hevent
      rcases List.mem_append.1 hevent with hopened | hdelta
      · exact openTool_inner index id name event hopened
      · rw [List.mem_singleton.1 hdelta]
        exact ⟨rfl, rfl⟩
  | pending reason => exact fun event hevent => nomatch hevent

/-- A stream that starts with its first text. -/
theorem ensureStarted_admissible :
    Admissible parser.started (parser.ensureStarted.2 ++ events) ↔ Admissible true events := by
  unfold ensureStarted
  cases parser.started with
  | true => simp
  | false => simp [Admissible, LlmEvent.isStarted, LlmEvent.needsStart, LlmEvent.terminal]

variable {last : LlmEvent}

/-- Events after which the stream may go on, and the last one. -/
theorem admissible_concat
    (h : ∀ event ∈ events, event.Inner ∧ (event.needsStart = true → started = true))
    (hlast : last.isStarted = false) :
    Admissible started (events ++ [last]) ↔ (last.needsStart = true → started = true) := by
  have hinner := fun event hevent => (h event hevent).1
  rw [admissible_append, any_started_inner hinner, any_terminal_inner hinner, Bool.or_false]
  simp [admissible_inner h, Admissible, hlast]

/-- What performing a reading does to the order of the stream. -/
structure Performs (parser : ProtocolParser) (reading : Reading) (next : ProtocolParser)
    (events : List LlmEvent) : Prop where
  admissible : Admissible parser.started events ↔ reading.InOrder parser.started
  started : next.started = (parser.started || events.any LlmEvent.isStarted)
  providerId : next.providerId = parser.providerId
  protocol : next.protocol = parser.protocol
  terminal : next.terminal = parser.terminal

variable {reading : Reading}

/-- A reading that is in order anyway, with events that are. -/
theorem SameStream.performs (h : SameStream parser next)
    (hreading : reading.announces = false ∧ reading.needsStart = false)
    (hinner : ∀ event ∈ events, event.Inner ∧ event.needsStart = false) :
    Performs parser reading next events := by
  have hstarted := any_started_inner fun event hevent => (hinner event hevent).1
  refine ⟨?_, ?_, h.providerId, h.protocol, h.terminal⟩
  · refine iff_of_true (admissible_inner fun event hevent => ⟨(hinner event hevent).1, ?_⟩) ?_
    · rw [(hinner event hevent).2]
      simp
    · rw [Reading.InOrder, hreading.1, hreading.2]
      simp
  · rw [h.started, hstarted, Bool.or_false]

/-- A reading with a last event, which may need a start. -/
theorem SameStream.performs_concat (h : SameStream parser next)
    (hannounces : reading.announces = false) (hneeds : reading.needsStart = last.needsStart)
    (hlast : last.isStarted = false)
    (hinner : ∀ event ∈ events, event.Inner ∧ event.needsStart = false) :
    Performs parser reading next (events ++ [last]) := by
  have hstarted := any_started_inner fun event hevent => (hinner event hevent).1
  refine ⟨?_, ?_, h.providerId, h.protocol, h.terminal⟩
  · rw [admissible_concat (fun event hevent => ⟨(hinner event hevent).1, ?_⟩) hlast,
      Reading.InOrder, hannounces, hneeds]
    · simp
    · rw [(hinner event hevent).2]
      simp
  · rw [List.any_append, hstarted, h.started]
    simp [hlast]

/-- A reading with one event. -/
theorem SameStream.performs_single (h : SameStream parser next)
    (hannounces : reading.announces = false) (hneeds : reading.needsStart = last.needsStart)
    (hlast : last.isStarted = false) : Performs parser reading next [last] := by
  have hnone : ∀ event ∈ ([] : List LlmEvent), event.Inner ∧ event.needsStart = false :=
    fun event hevent => nomatch hevent
  exact h.performs_concat hannounces hneeds hlast hnone

theorem cohereEnding_needsStart (providerId reason : Text) :
    (cohereEnding providerId reason).needsStart = !isFailure reason ∧
      (cohereEnding providerId reason).isStarted = false := by
  unfold cohereEnding
  cases isFailure reason <;> exact ⟨rfl, rfl⟩

theorem ensureStarted_started :
    parser.ensureStarted.1.started = (parser.started ||
      parser.ensureStarted.2.any LlmEvent.isStarted) ∧
    parser.ensureStarted.1.started = true := by
  unfold ensureStarted
  cases hstarted : parser.started <;> simp [hstarted, LlmEvent.isStarted]

theorem ensureStarted_same :
    parser.ensureStarted.1.providerId = parser.providerId ∧
      parser.ensureStarted.1.protocol = parser.protocol ∧
      parser.ensureStarted.1.terminal = parser.terminal := by
  unfold ensureStarted
  cases parser.started <;> exact ⟨rfl, rfl, rfl⟩

/-- A reading that starts the stream itself. -/
theorem performs_started (h : SameStream parser.ensureStarted.1 next)
    (hreading : reading.announces = false ∧ reading.needsStart = false)
    (hinner : ∀ event ∈ events, event.isStarted = false) (hevents : Admissible true events) :
    Performs parser reading next (parser.ensureStarted.2 ++ events) := by
  have hnone : events.any LlmEvent.isStarted = false := by
    rw [List.any_eq_false]
    intro event hevent
    rw [hinner event hevent]
    simp
  refine ⟨?_, ?_, ?_, ?_, ?_⟩
  · refine iff_of_true (ensureStarted_admissible.2 hevents) ?_
    rw [Reading.InOrder, hreading.1, hreading.2]
    simp
  · rw [h.started, List.any_append, hnone, Bool.or_false, ensureStarted_started.1]
  · rw [h.providerId, ensureStarted_same.1]
  · rw [h.protocol, ensureStarted_same.2.1]
  · rw [h.terminal, ensureStarted_same.2.2]

theorem fillArguments_same (index : Nat) (arguments : Option Text) :
    SameStream parser (parser.fillArguments index arguments) := by
  cases arguments <;> exact ⟨rfl, rfl, rfl, rfl⟩

/-- **What a reading does to the order.** -/
theorem perform_performs (h : parser.perform fromStr reading = .ok (next, events)) :
    Performs parser reading next events := by
  cases reading with
  | announce requestId usage =>
    cases h
    have hinner := usageEvents_inner usage
    refine ⟨?_, ?_, rfl, rfl, rfl⟩
    · have hadmissible : Admissible true (usageEvents usage) :=
        admissible_inner fun event hevent => ⟨(hinner event hevent).1, fun _ => rfl⟩
      simp [Admissible, Reading.InOrder, Reading.announces, Reading.needsStart,
        LlmEvent.isStarted, LlmEvent.needsStart, LlmEvent.terminal, hadmissible]
    · simp [LlmEvent.isStarted]
  | text text index =>
    cases h
    exact performs_started ⟨rfl, rfl, rfl, rfl⟩ ⟨rfl, rfl⟩
      (fun event hevent => (textEvents_inner text index event hevent).1)
      (admissible_inner fun event hevent => ⟨textEvents_inner text index event hevent, fun _ => rfl⟩)
  | start index id name arguments =>
    have hsame : SameStream parser (parser.startTool index id name).1 := ⟨rfl, rfl, rfl, rfl⟩
    unfold perform at h
    cases hempty : arguments.isEmpty with
    | true =>
      simp only [hempty, if_true] at h
      cases h
      exact hsame.performs_single rfl rfl rfl
    | false =>
      simp only [hempty, Bool.false_eq_true, if_false] at h
      cases h
      refine ⟨?_, ?_, rfl, rfl, rfl⟩
      · simp [startTool, Admissible, Reading.InOrder, Reading.announces, Reading.needsStart,
          LlmEvent.isStarted, LlmEvent.needsStart, LlmEvent.terminal]
      · simp [startTool, pushArguments, LlmEvent.isStarted]
  | delta index fragment =>
    obtain ⟨-, rfl, rfl⟩ := toolDelta_eq_ok.1 h
    refine SameStream.performs ⟨rfl, rfl, rfl, rfl⟩ ⟨rfl, rfl⟩ ?_
    intro event hevent
    rw [List.mem_singleton.1 hevent]
    exact ⟨⟨rfl, rfl⟩, rfl⟩
  | complete index arguments =>
    have hcomplete := completeTool_inner h
    exact ((fillArguments_same index arguments).trans hcomplete.1).performs ⟨rfl, rfl⟩
      fun event hevent => hcomplete.2 event hevent
  | close index =>
    unfold perform at h
    simp only at h
    split at h
    · have hcomplete := completeTool_inner h
      exact hcomplete.1.performs ⟨rfl, rfl⟩
        fun event hevent => hcomplete.2 event hevent
    · cases h
      exact SameStream.performs ⟨rfl, rfl, rfl, rfl⟩ ⟨rfl, rfl⟩ fun event hevent => nomatch hevent
  | pending reason usage =>
    cases h
    exact SameStream.performs ⟨rfl, rfl, rfl, rfl⟩ ⟨rfl, rfl⟩ (usageEvents_inner usage)
  | finish reason providerReason usage =>
    cases h
    exact SameStream.performs_concat ⟨rfl, rfl, rfl, rfl⟩ rfl rfl rfl (usageEvents_inner usage)
  | stop =>
    cases h
    exact SameStream.performs_single ⟨rfl, rfl, rfl, rfl⟩ rfl rfl rfl
  | ending reason usage =>
    obtain ⟨-, hrest⟩ := check_eq_ok.1 h
    cases hrest
    have hending := cohereEnding_needsStart parser.providerId reason
    exact SameStream.performs_concat ⟨rfl, rfl, rfl, rfl⟩ rfl hending.1.symm hending.2
      (usageEvents_inner usage)
  | done =>
    obtain ⟨⟨middle, completed⟩, hall, hrest⟩ := bind_eq_ok.1 h
    cases hrest
    have hcompleted := completeAllTools_inner hall
    have hsame : SameStream parser middle.takePending := hcompleted.1.trans ⟨rfl, rfl, rfl, rfl⟩
    refine hsame.performs_concat rfl rfl ?_ ?_
    · rfl
    · exact fun event hevent => hcompleted.2 event hevent
  | response items usage =>
    have hsame : SameStream parser.ensureStarted.1
        (emitEach performGemini parser.ensureStarted.1 items).1 :=
      emitEach_inv (SameStream parser.ensureStarted.1) (fun middle item hmiddle => hmiddle.trans (performGemini_same item)) items
      ⟨rfl, rfl, rfl, rfl⟩
    have hinner : ∀ event ∈ (emitEach performGemini parser.ensureStarted.1 items).2 ++
        usageEvents usage, event.Inner := by
      intro event hevent
      rcases List.mem_append.1 hevent with hitem | husage
      · exact emitEach_forall performGemini_inner items _ event hitem
      · exact (usageEvents_inner usage event husage).1
    unfold perform at h
    simp only [List.append_assoc] at h
    split at h
    · cases h
      rw [← List.append_assoc (emitEach performGemini _ items).2]
      refine performs_started (hsame.trans ⟨rfl, rfl, rfl, rfl⟩) ⟨rfl, rfl⟩ ?_ ?_
      · intro event hevent
        rcases List.mem_append.1 hevent with hin | hlast
        · exact (hinner event hin).1
        · rw [List.mem_singleton.1 hlast]
          rfl
      · rw [admissible_concat (fun event hevent => ⟨hinner event hevent, fun _ => rfl⟩) rfl]
        exact fun _ => rfl
    · cases h
      exact performs_started hsame ⟨rfl, rfl⟩ (fun event hevent => (hinner event hevent).1)
        (admissible_inner fun event hevent => ⟨hinner event hevent, fun _ => rfl⟩)
  | chunk requestId items usage =>
    cases h
    have hsame : SameStream { parser with started := true }
        (emitEach performChat { parser with started := true } items).1 :=
      emitEach_inv (SameStream { parser with started := true }) (fun middle item hmiddle => hmiddle.trans (performChat_same item)) items
      ⟨rfl, rfl, rfl, rfl⟩
    have hinner : ∀ event ∈ (emitEach performChat { parser with started := true } items).2 ++
        usageEvents usage, event.Inner := by
      intro event hevent
      rcases List.mem_append.1 hevent with hitem | husage
      · exact emitEach_forall performChat_inner items _ event hitem
      · exact (usageEvents_inner usage event husage).1
    have hadmissible : Admissible true
        ((emitEach performChat { parser with started := true } items).2 ++ usageEvents usage) :=
      admissible_inner fun event hevent => ⟨hinner event hevent, fun _ => rfl⟩
    have hnone := any_started_inner hinner
    rw [List.append_assoc]
    refine ⟨iff_of_true ?_ ⟨fun h => (nomatch h), fun h => (nomatch h)⟩, ?_, hsame.providerId,
      hsame.protocol, hsame.terminal⟩
    · cases parser.started with
      | true => exact hadmissible
      | false =>
        exact ⟨fun _ => rfl, fun h => (nomatch h), fun h => (nomatch h), hadmissible⟩
    · rw [hsame.started, List.any_append, hnone, Bool.or_false]
      cases parser.started <;> rfl
  | failed error =>
    cases h
    exact SameStream.performs_single ⟨rfl, rfl, rfl, rfl⟩ rfl rfl rfl
  | ignored =>
    cases h
    exact SameStream.performs ⟨rfl, rfl, rfl, rfl⟩ ⟨rfl, rfl⟩ fun event hevent => nomatch hevent

/-! ## Runs -/

/-- **A frame that goes through.** -/
theorem parse_eq_ok {frame : SseFrame} :
    parser.parse fromStr frame = .ok (next, events) ↔
      parser.terminal = true ∧ next = parser ∧ events = [] ∨
      parser.terminal = false ∧ ∃ reading middle,
        read parser.providerId fromStr parser.protocol frame = .ok reading ∧
        parser.perform fromStr reading = .ok (middle, events) ∧
        next = if events.any LlmEvent.terminal then { middle with terminal := true }
          else middle := by
  unfold parse
  cases hterminal : parser.terminal with
  | true =>
    simp only [if_true, Except.ok.injEq, Prod.mk.injEq, true_and, Bool.true_eq_false, false_and,
      or_false]
    tauto
  | false =>
    simp only [Bool.false_eq_true, if_false, false_and, false_or, true_and,
      parser.parseFrame_eq fromStr frame hterminal]
    constructor
    · intro h
      obtain ⟨⟨middle, emitted⟩, hperform, hok⟩ := bind_eq_ok.1 h
      obtain ⟨reading, hread, hperform⟩ := bind_eq_ok.1 hperform
      cases hok
      exact ⟨reading, middle, hread, hperform, rfl⟩
    · rintro ⟨reading, middle, hread, hperform, rfl⟩
      exact bind_eq_ok.2 ⟨(middle, events), bind_eq_ok.2 ⟨reading, hread, hperform⟩, rfl⟩

/-- After a terminal event nothing is emitted. -/
theorem outputs_of_terminal (h : parser.terminal = true) (frames : List SseFrame) :
    outputs (emitRun (parse fromStr) parser frames) = [] := by
  induction frames with
  | nil => rfl
  | cons frame frames ih =>
    have hstep : parser.parse fromStr frame = .ok (parser, []) :=
      parse_eq_ok.2 (.inl ⟨h, rfl, rfl⟩)
    simp only [emitRun, hstep, outputs, List.flatMap_cons, List.nil_append]
    exact ih

/-- The parser after a frame that was performed. -/
theorem next_fields {middle : ProtocolParser} (h : Performs parser reading middle events) (hnext
      : next = if events.any LlmEvent.terminal then { middle with terminal := true } else middle) :
    next.providerId = parser.providerId ∧ next.protocol = parser.protocol ∧
      next.started = (parser.started || events.any LlmEvent.isStarted) ∧
      next.terminal = (parser.terminal || events.any LlmEvent.terminal) := by
  subst hnext
  cases events.any LlmEvent.terminal with
  | true => exact ⟨h.providerId, h.protocol, h.started, by simp⟩
  | false => exact ⟨h.providerId, h.protocol, h.started, by simpa using h.terminal⟩

/-- **The order of a run**, from any parser. -/
theorem admissible_run (frames past : List SseFrame) (parser : ProtocolParser) :
    Admissible parser.started (outputs (emitRun (parse fromStr) parser frames)) ↔
      EmitAlong (parse fromStr) (fun _ parser frame => InOrder fromStr parser frame) past parser
        frames := by
  induction frames generalizing past parser with
  | nil => exact iff_of_true trivial trivial
  | cons frame frames ih =>
    cases hstep : parser.parse fromStr frame with
    | error error =>
      simp only [emitRun, EmitAlong, hstep]
      exact iff_of_true trivial trivial
    | ok result =>
      obtain ⟨next, events⟩ := result
      simp only [emitRun, EmitAlong, hstep, outputs, List.flatMap_cons]
      rw [← ih (past ++ [frame]) next]
      rcases parse_eq_ok.1 hstep with
        ⟨hterminal, rfl, rfl⟩ | ⟨hterminal, reading, middle, hread, hperform, hnext⟩
      · have hinorder : InOrder fromStr next frame := fun hopen => by
          rw [hterminal] at hopen
          cases hopen
        rw [List.nil_append]
        exact (and_iff_right hinorder).symm
      · have hperforms := perform_performs hperform
        obtain ⟨-, -, hstarted, hends⟩ := next_fields hperforms hnext
        have hinorder : InOrder fromStr parser frame ↔ reading.InOrder parser.started := by
          constructor
          · exact fun h => h hterminal reading hread
          · intro h _ other hother
            rw [hread] at hother
            cases hother
            exact h
        have hlast : events.any LlmEvent.terminal = true →
            outputs (emitRun (parse fromStr) next frames) = [] := by
          intro hany
          apply outputs_of_terminal
          rw [hends, hany, Bool.or_true]
        rw [admissible_append, hperforms.admissible, hinorder, ← hstarted]
        exact and_congr_right fun _ => and_iff_right hlast

/-- **The text of a run.** -/
theorem text_run (frames : List SseFrame) {parser : ProtocolParser}
    (h : parser.terminal = false) :
    (outputs (emitRun (parse fromStr) parser frames)).flatMap LlmEvent.text =
      (upToTerminal (emitRun (parse fromStr) parser frames)).flatMap
        (frameText fromStr parser.protocol) := by
  induction frames generalizing parser with
  | nil => rfl
  | cons frame frames ih =>
    cases hstep : parser.parse fromStr frame with
    | error error =>
      simp only [emitRun, hstep]
      rfl
    | ok result =>
      obtain ⟨next, events⟩ := result
      rcases parse_eq_ok.1 hstep with
        ⟨hterminal, -, -⟩ | ⟨-, reading, middle, hread, hperform, hnext⟩
      · rw [h] at hterminal
        cases hterminal
      · obtain ⟨-, hprotocol, -, hends⟩ := next_fields (perform_performs hperform) hnext
        rw [h, Bool.false_or] at hends
        have htext : events.flatMap LlmEvent.text = frameText fromStr parser.protocol frame :=
          (perform_said hperform).trans (said_of_read hread)
        simp only [emitRun, hstep, outputs, List.flatMap_cons, upToTerminal, List.flatMap_append,
          htext]
        refine congrArg (frameText fromStr parser.protocol frame ++ ·) ?_
        cases hany : events.any LlmEvent.terminal with
        | true =>
          have hnone : outputs (emitRun (parse fromStr) next frames) = [] :=
            outputs_of_terminal (hends.trans hany) frames
          rw [outputs] at hnone
          rw [hnone]
          rfl
        | false =>
          rw [← hprotocol]
          exact ih (hends.trans hany)

end ProtocolParser

/-- **The grammar of a stream.** Whatever frames are fed to a parser, up to the first error the text
of its events is the text of the frames up to the terminal one, and its events keep to the grammar
exactly if what each frame says is in order. -/
theorem event_stream_grammar_iff (fromStr : Text → Option Value) (providerId : Text)
    (protocol : ProviderProtocol) (frames : List SseFrame) :
    let parser := ProtocolParser.new providerId protocol
    let steps := emitRun (ProtocolParser.parse fromStr) parser frames
    (Grammar (outputs steps) ∧
        (outputs steps).flatMap LlmEvent.text =
          (upToTerminal steps).flatMap (frameText fromStr protocol)) ↔
      EmitAlong (ProtocolParser.parse fromStr)
        (fun _ parser frame => InOrder fromStr parser frame) [] parser frames := by
  intro parser steps
  have htext : (outputs steps).flatMap LlmEvent.text =
      (upToTerminal steps).flatMap (frameText fromStr protocol) :=
    ProtocolParser.text_run frames rfl
  rw [and_iff_left htext, grammar_iff]
  exact ProtocolParser.admissible_run frames [] parser

/-! ### A tool call without a start -/

/-- The start of a tool call, as Anthropic sends it. -/
def toolUseFrame : SseFrame where
  event := some "content_block_start".toList
  data := ("\x7b\"type\":\"content_block_start\",\"index\":1,\"content_block\":" ++
    "\x7b\"type\":\"tool_use\",\"id\":\"call-1\",\"name\":\"lookup\"\x7d\x7d").toList

/-- The JSON of it. -/
def toolUseJson (data : Text) : Option Value :=
  if data = toolUseFrame.data then
    some (.object
      [("type".toList, .string "content_block_start".toList),
        ("index".toList, .number (.posInt 1)),
        ("content_block".toList, .object
          [("type".toList, .string "tool_use".toList),
            ("id".toList, .string "call-1".toList),
            ("name".toList, .string "lookup".toList)])])
  else none

/-- Text starts a message that was not announced. A tool call does not. -/
theorem tool_call_before_start :
    ¬ ∀ (fromStr : Text → Option Value) (providerId : Text) (protocol : ProviderProtocol)
      (frames : List SseFrame),
      let steps := emitRun (ProtocolParser.parse fromStr)
        (ProtocolParser.new providerId protocol) frames
      Grammar (outputs steps) ∧
        (outputs steps).flatMap LlmEvent.text =
          (upToTerminal steps).flatMap (frameText fromStr protocol) := by
  intro h
  have hgrammar := (h toolUseJson "anthropic".toList .anthropicMessages [toolUseFrame]).1
  have hevents : outputs (emitRun (ProtocolParser.parse toolUseJson)
      (ProtocolParser.new "anthropic".toList .anthropicMessages) [toolUseFrame]) =
      [.toolCallStarted 1 "call-1".toList "lookup".toList] := by
    decide +kernel
  rw [hevents] at hgrammar
  obtain ⟨first, hfirst, -⟩ := hgrammar.order [] _ [] rfl rfl
  cases hfirst

end NpcRuntime.Llm
