import NpcRuntime.Lib.Table
import NpcRuntime.Recognition.PushToTalk

/-!
# What becomes of a push-to-talk utterance

The chunks are sent once, in order, and each is acknowledged after it was sent (`sendChunks`). The
events are read up to the end of the first turn with a final text, so the transcript is the first
final text that arrives (`firstFinal`), whatever the provider has said in other turns before the end
of the turn that the flush closes.
-/

namespace NpcRuntime.Recognition

open Json HostedSession

/-! ## What the provider says -/

/-- The final text of a frame, with the order of its turn. -/
def finalOf : ServerFrame → Option (Nat × Text)
  | .text (some value) =>
    if stringAt value "type" = some "Turn".toList ∧
        (value.get "end_of_turn").bind Value.asBool = some true then
      match (value.get "turn_order").bind Value.asU64, stringAt value "transcript" with
      | some order, some text => if text = [] then none else some (order, text)
      | _, _ => none
    else none
  | _ => none

/-- A `Turn` frame with `end_of_turn`. -/
def endsTurn : ServerFrame → Bool
  | .text (some value) =>
    stringAt value "type" = some "Turn".toList &&
      (value.get "end_of_turn").bind Value.asBool = some true
  | _ => false

/-- The frames up to the end of the turn that a flush before them closed. -/
def closedByFlush : List Arrival → List ServerFrame
  | .frame frame :: late =>
    if endsTurn frame then [frame]
    else if frame = .closed then []
    else frame :: closedByFlush late
  | _ => []

/-- The final texts up to the end of the turn that the flush closed. -/
def Utterance.finals (utterance : Utterance) : List (Nat × Text) :=
  (utterance.early ++ closedByFlush utterance.late).filterMap finalOf

/-- The last final text of every turn, in the order of the turns. -/
def lastFinals (finals : List (Nat × Text)) : List Text :=
  (Table.collect Prod.fst Prod.snd finals).ascending

/-- The parts stand in the text one after the other. -/
def InOrder : List Text → Text → Prop
  | [], _ => True
  | part :: parts, text => ∃ gap rest, text = gap ++ part ++ rest ∧ InOrder parts rest

def InputMoment.given : InputMoment → Option NativePcmChunk
  | .chunk given .. => some given
  | .cancelled | .failed => none

/-- The chunks that the source gives. -/
def Utterance.chunks (utterance : Utterance) : List NativePcmChunk :=
  utterance.input.filterMap InputMoment.given

def NativePcmChunk.frame (chunk : NativePcmChunk) : ClientFrame := .binary chunk.pcmS16le

/-- Every chunk is acknowledged when it is the last of the frames that have been sent. -/
def acknowledgements (sent : Nat) (chunks : List NativePcmChunk) : List (Nat × Nat) :=
  chunks.mapIdx fun index chunk => (chunk.sequence, sent + index + 1)

/-- The first final text that arrives. -/
def firstFinal : List Arrival → Option Text
  | [] => none
  | .frame frame :: arrivals => ((finalOf frame).map Prod.snd).or (firstFinal arrivals)
  | _ :: arrivals => firstFinal arrivals

theorem firstFinal_early (early : List ServerFrame) (late : List Arrival) :
    firstFinal (early.map .frame ++ late) =
      ((early.filterMap finalOf).head?.map Prod.snd).or (firstFinal late) := by
  induction early with
  | nil => rfl
  | cons frame early ih =>
    rw [List.map_cons, List.cons_append, firstFinal, ih]
    cases hfinal : finalOf frame with
    | none => simp [hfinal]
    | some final => simp [hfinal]

theorem firstFinal_closedByFlush {late : List Arrival} {final : Nat × Text}
    {rest : List (Nat × Text)} (h : (closedByFlush late).filterMap finalOf = final :: rest) :
    firstFinal late = some final.2 := by
  induction late with
  | nil => cases h
  | cons arrival late ih =>
    cases arrival with
    | frame frame =>
      rw [closedByFlush] at h
      rw [firstFinal]
      cases hfinal : finalOf frame with
      | some first =>
        have hhead : final = first := by
          by_cases hends : endsTurn frame
          · rw [if_pos hends, List.filterMap_cons_some hfinal] at h
            exact (List.cons.inj h).1.symm
          · rw [if_neg hends] at h
            by_cases hclosed : frame = .closed
            · rw [if_pos hclosed] at h
              cases h
            · rw [if_neg hclosed, List.filterMap_cons_some hfinal] at h
              exact (List.cons.inj h).1.symm
        rw [hhead]
        rfl
      | none =>
        have hrest : (closedByFlush late).filterMap finalOf = final :: rest := by
          by_cases hends : endsTurn frame
          · rw [if_pos hends, List.filterMap_cons_none hfinal] at h
            cases h
          · rw [if_neg hends] at h
            by_cases hclosed : frame = .closed
            · rw [if_pos hclosed] at h
              cases h
            · rwa [if_neg hclosed, List.filterMap_cons_none hfinal] at h
        exact ih hrest
    | ended => cases h
    | timedOut => cases h
    | failed => cases h
    | cancelled => cases h

theorem firstFinal_of_finals {utterance : Utterance} {final : Nat × Text}
    {rest : List (Nat × Text)} (h : utterance.finals = final :: rest) :
    firstFinal utterance.arrivals = some final.2 := by
  rw [Utterance.arrivals, firstFinal_early]
  rw [Utterance.finals, List.filterMap_append] at h
  cases hearly : utterance.early.filterMap finalOf with
  | nil =>
    rw [hearly] at h
    exact firstFinal_closedByFlush h
  | cons first finals =>
    rw [hearly] at h
    obtain ⟨rfl, -⟩ := List.cons.inj h
    rfl

/-! ## The frames of AssemblyAI -/

/-- Neither a final text nor the end of a turn. -/
def WireEvent.Idle : WireEvent → Prop
  | .transcript item => item.status ≠ .final
  | .turnEnded .. => False
  | _ => True

def RecognitionEvent.Idle : RecognitionEvent → Prop
  | .transcript item => item.status ≠ .final
  | .turnEnded .. => False
  | _ => True

theorem assemblyTurn_cases {value : Value} {events : List WireEvent}
    (htype : stringAt value "type" = some "Turn".toList)
    (h : assemblyTurn true value = .ok events) :
    (finalOf (.text (some value)) = none ∧ ∀ event ∈ events, event.Idle) ∨
      ∃ order item, finalOf (.text (some value)) = some (order, item.text) ∧
        item.status = .final ∧
        events = [.transcript item, .turnEnded item.turnId .providerEndpoint] := by
  unfold assemblyTurn at h
  simp only [finalOf, htype, true_and]
  cases horder : (value.get "turn_order").bind Value.asU64 with
  | none => simp [horder] at h
  | some order =>
    simp only [horder] at h
    cases htext : stringAt value "transcript" with
    | none =>
      simp only [htext, Option.getD_none, List.isEmpty_nil, if_true, Except.ok.injEq] at h
      subst h
      exact .inl ⟨by split <;> rfl, by simp⟩
    | some text =>
      simp only [htext, Option.getD_some] at h
      by_cases hempty : text = []
      · simp only [hempty, List.isEmpty_nil, if_true, Except.ok.injEq] at h
        subst h
        exact .inl ⟨by simp [hempty], by simp⟩
      · have hnotEmpty : text.isEmpty = false := by simpa using hempty
        simp only [hnotEmpty, Bool.false_eq_true, if_false] at h
        by_cases hend : (value.get "end_of_turn").bind Value.asBool = some true
        · simp only [hend, Option.getD_some, Bool.not_true, Bool.false_and, Bool.and_false,
            Bool.false_eq_true, if_false, if_true, Except.ok.injEq] at h
          exact .inr ⟨order, assemblyTranscript value (turnOfIndex order) text .final,
            by simp [hend, hempty, assemblyTranscript], rfl, h.symm⟩
        · have hgoes : ((value.get "end_of_turn").bind Value.asBool).getD false = false := by
            cases hbool : (value.get "end_of_turn").bind Value.asBool with
            | none => rfl
            | some ends =>
              cases ends
              · rfl
              · exact absurd hbool hend
          simp only [hgoes, Bool.not_true, Bool.false_and, Bool.false_eq_true, if_false,
            Except.ok.injEq] at h
          subst h
          refine .inl ⟨by simp [hend], ?_⟩
          rintro event hevent
          obtain rfl := List.mem_singleton.1 hevent
          show (assemblyTranscript _ _ _ _).status ≠ .final
          unfold assemblyTranscript
          split <;> simp

/-- **A frame** of AssemblyAI has no final text, or a final text and the end of its turn. -/
theorem assemblyParse_cases {frame : ServerFrame} {events : List WireEvent}
    (h : assemblyParse true frame = .ok events) :
    (finalOf frame = none ∧ ∀ event ∈ events, event.Idle) ∨
      ∃ order item, finalOf frame = some (order, item.text) ∧ item.status = .final ∧
        events = [.transcript item, .turnEnded item.turnId .providerEndpoint] := by
  obtain ⟨value, hvalue, hbody⟩ := bind_eq_ok.1 h
  have hframe : frame = .text (some value) := by
    cases frame with
    | text json => cases json <;> cases hvalue; rfl
    | binary bytes => cases hvalue
    | closed => cases hvalue
  subst hframe
  by_cases hturn : stringAt value "type" = some "Turn".toList
  · refine assemblyTurn_cases hturn ?_
    have htype : (stringAt value "type").getD [] = "Turn".toList := by rw [hturn]; rfl
    have hbegin : "Turn".toList ≠ "Begin".toList := by decide
    have hspeech : "Turn".toList ≠ "SpeechStarted".toList := by decide
    rwa [htype, if_neg hbegin, if_neg hspeech, if_pos rfl] at hbody
  · have hother : (stringAt value "type").getD [] ≠ "Turn".toList := by
      cases htype : stringAt value "type" with
      | none => simp
      | some type => simpa [htype] using hturn
    have hidle : ∀ event : WireEvent, event.Idle → (.ok [event] : Except SttError _) = .ok events →
        ∀ event ∈ events, event.Idle := by
      rintro event hevent hone other hother
      rw [← Except.ok.inj hone] at hother
      rwa [List.mem_singleton.1 hother]
    refine .inl ⟨by rw [finalOf, if_neg fun h => hturn h.1], ?_⟩
    simp only [hother, if_false] at hbody
    by_cases hbegin : (stringAt value "type").getD [] = "Begin".toList
    · rw [if_pos hbegin] at hbody
      exact hidle (.sessionStarted (stringAt value "id")) trivial hbody
    rw [if_neg hbegin] at hbody
    by_cases hspeech : (stringAt value "type").getD [] = "SpeechStarted".toList
    · rw [if_pos hspeech] at hbody
      cases hbody
      simp
    rw [if_neg hspeech] at hbody
    by_cases hended : (stringAt value "type").getD [] = "Termination".toList
    · rw [if_pos hended] at hbody
      cases hbody
      simp
    rw [if_neg hended] at hbody
    by_cases hwarning : (stringAt value "type").getD [] = "Warning".toList
    · rw [if_pos hwarning] at hbody
      exact hidle (safeWarning _ _) trivial hbody
    rw [if_neg hwarning] at hbody
    by_cases herror : (stringAt value "type").getD [] = "Error".toList
    · rw [if_pos herror] at hbody
      cases hbody
    · rw [if_neg herror] at hbody
      cases hbody

/-! ## The session while it is listened to -/

/-- The frames before these are followed by no audio. -/
def Controls (audio transport : List ClientFrame) : Prop :=
  ∃ control, transport = audio ++ control ∧ ∀ bytes, .binary bytes ∉ control

theorem Controls.of_eq {audio transport transport' : List ClientFrame}
    (h : Controls audio transport) (heq : transport' = transport) : Controls audio transport' :=
  heq ▸ h

theorem Controls.concat {audio transport : List ClientFrame} (h : Controls audio transport)
    {frame : ClientFrame} (hframe : ∀ bytes, frame ≠ .binary bytes) :
    Controls audio (transport ++ [frame]) := by
  obtain ⟨control, rfl, hcontrol⟩ := h
  refine ⟨control ++ [frame], List.append_assoc .., fun bytes hbytes => ?_⟩
  rcases List.mem_append.1 hbytes with hbytes | hbytes
  · exact hcontrol bytes hbytes
  · exact hframe bytes (List.mem_singleton.1 hbytes).symm

/-- The final text that is known from the transcript and the events to come. -/
inductive Foretells : Text → List RecognitionEvent → Option Text → Prop where
  | nothing {events : List RecognitionEvent} (hidle : ∀ event ∈ events, event.Idle) :
      Foretells [] events none
  | final {idle : List RecognitionEvent} {item : TranscriptEvent} {turnId : Text}
      {revision : UInt64} {reason : TurnEndReason} (hidle : ∀ event ∈ idle, event.Idle)
      (hfinal : item.status = .final) :
      Foretells [] (idle ++ [.transcript item, .turnEnded turnId revision reason]) (some item.text)
  | ending {text turnId : Text} {revision : UInt64} {reason : TurnEndReason} (hne : text ≠ []) :
      Foretells text [.turnEnded turnId revision reason] (some text)

variable {events : List RecognitionEvent} {text : Text} {known : Option Text}

theorem Foretells.of_ne (h : Foretells text events known) (hne : text ≠ []) :
    known = some text := by
  cases h with
  | nothing hidle => exact absurd rfl hne
  | final hidle hfinal => exact absurd rfl hne
  | ending hne => rfl

theorem Foretells.of_nil (h : Foretells text [] known) : text = [] ∧ known = none := by
  generalize hall : ([] : List RecognitionEvent) = all at h
  cases h with
  | nothing hidle => exact ⟨rfl, rfl⟩
  | final hidle hfinal => simp at hall
  | ending hne => cases hall

/-- An idle event does not change what is foretold. -/
theorem Foretells.idle {text : Text} {event : RecognitionEvent} {events : List RecognitionEvent}
    (h : Foretells text (event :: events) known) (hevent : event.Idle) :
    text = [] ∧ Foretells [] events known := by
  generalize hall : event :: events = all at h
  cases h with
  | nothing hidle =>
    exact ⟨rfl, .nothing fun e he => hidle e (hall ▸ List.mem_cons_of_mem event he)⟩
  | @final idle item turnId revision reason hidle hfinal =>
    cases idle with
    | nil =>
      obtain ⟨rfl, -⟩ := List.cons.inj hall
      exact absurd hfinal hevent
    | cons head idle =>
      obtain ⟨-, rfl⟩ := List.cons.inj hall
      exact ⟨rfl, .final (fun e he => hidle e (List.mem_cons_of_mem head he)) hfinal⟩
  | ending hne =>
    obtain ⟨rfl, -⟩ := List.cons.inj hall
    cases hevent

theorem Foretells.final_event {item : TranscriptEvent}
    (h : Foretells text (.transcript item :: events) known) (hfinal : item.status = .final)
    (hne : item.text ≠ []) : Foretells item.text events known := by
  generalize hall : RecognitionEvent.transcript item :: events = all at h
  cases h with
  | nothing hidle => exact absurd hfinal (hidle (.transcript item) (hall ▸ List.mem_cons_self))
  | @final idle first turnId revision reason hidle _ =>
    cases idle with
    | nil =>
      obtain ⟨hitem, rfl⟩ := List.cons.inj hall
      obtain rfl := RecognitionEvent.transcript.inj hitem
      exact .ending hne
    | cons head idle =>
      obtain ⟨rfl, -⟩ := List.cons.inj hall
      exact absurd hfinal (hidle (.transcript item) List.mem_cons_self)
  | ending hne => cases hall

theorem Foretells.end_event {turnId : Text} {revision : UInt64} {reason : TurnEndReason}
    (h : Foretells text (.turnEnded turnId revision reason :: events) known) : text ≠ [] := by
  generalize hall : RecognitionEvent.turnEnded turnId revision reason :: events = all at h
  cases h with
  | nothing hidle =>
    cases hidle (.turnEnded turnId revision reason) (hall ▸ List.mem_cons_self)
  | @final idle item _ _ _ hidle _ =>
    cases idle with
    | nil => cases hall
    | cons head idle =>
      obtain ⟨rfl, -⟩ := List.cons.inj hall
      cases hidle (.turnEnded turnId revision reason) List.mem_cons_self
  | ending hne => exact hne

/-- **Hearing** an event keeps what is foretold, and the loop stops with a text. -/
theorem Foretells.hear {heard : Heard} {event : RecognitionEvent}
    (h : Foretells heard.transcript (event :: events) known) :
    match Recognition.hear event heard with
    | .goOn heard => Foretells heard.transcript events known
    | .stop => heard.transcript ≠ []
    | .cancelled | .failed _ => True := by
  have hgoOn : event.Idle → Foretells heard.transcript events known := by
    intro hidle
    obtain ⟨hnone, hrest⟩ := h.idle hidle
    rwa [hnone]
  unfold Recognition.hear
  cases event with
  | transcript item =>
    cases hstatus : item.status with
    | final =>
      simp only [hstatus]
      by_cases hbad : item.text.isEmpty || maxTranscriptBytes < Text.utf8Len item.text
      · rw [if_pos hbad]
        trivial
      · rw [if_neg hbad]
        exact h.final_event hstatus fun hempty => hbad (by simp [hempty])
    | partialText =>
      simp only [hstatus]
      exact hgoOn (by simp [RecognitionEvent.Idle, hstatus])
    | eagerFinal =>
      simp only [hstatus]
      exact hgoOn (by simp [RecognitionEvent.Idle, hstatus])
  | turnEnded turnId revision reason =>
    have hne := h.end_event
    have hnotEmpty : heard.transcript.isEmpty = false := by simpa using hne
    simp [hnotEmpty, hne]
  | cancelled => trivial
  | sessionStarted providerSessionId => exact hgoOn trivial
  | turnStarted turnId => exact hgoOn trivial
  | turnResumed turnId revision => exact hgoOn trivial
  | warning code message => exact hgoOn trivial

/-- A session whose events to come are these. -/
structure Hearing (audio : List ClientFrame) (transcript : Text) (events : List RecognitionEvent)
    (known : Option Text) (session : HostedSession) : Prop where
  protocol : session.protocol = .assemblyAi true
  controls : Controls audio session.transport
  foretells : Foretells transcript events known
  /-- No turn has ended before the first final text. -/
  ended : known = none → session.endedTurns = ∅

/-- A session after idle events. -/
structure Idled (session after : HostedSession) : Prop where
  pending : ∀ event ∈ after.pending, event.Idle
  ended : after.endedTurns = session.endedTurns
  protocol : after.protocol = session.protocol
  transport : after.transport = session.transport

variable {session after : HostedSession}

section

variable (h : Idled session after)

include h

theorem Idled.push (event : RecognitionEvent) (hevent : event.Idle) (revisions : Text → UInt64)
    (started : Finset Text) :
    Idled session ({ after with revisions, startedTurns := started }.push event) where
  pending := by
    intro e he
    rcases List.mem_append.1 he with he | he
    · exact h.pending e he
    · obtain rfl := List.mem_singleton.1 he
      exact hevent
  ended := h.ended
  protocol := h.protocol
  transport := h.transport

theorem Idled.ensureTurnStarted (turnId : Text) :
    Idled session (after.ensureTurnStarted turnId) := by
  unfold HostedSession.ensureTurnStarted
  by_cases hstarted : turnId ∈ after.startedTurns
  · rwa [if_pos hstarted]
  · rw [if_neg hstarted]
    exact h.push (.turnStarted turnId) trivial after.revisions (insert turnId after.startedTurns)

theorem Idled.normalize {event : WireEvent} (hevent : event.Idle) :
    Idled session (after.normalize event) := by
  cases event with
  | sessionStarted providerSessionId => exact h.push (.sessionStarted providerSessionId) trivial _ _
  | warning code message => exact h.push (.warning code message) trivial _ _
  | turnStarted turnId => exact h.ensureTurnStarted turnId
  | transcript item =>
    refine (h.ensureTurnStarted item.turnId).push _ ?_ _ _
    exact hevent
  | turnResumed turnId =>
    refine (h.ensureTurnStarted turnId).push _ ?_ _ _
    trivial
  | turnEnded turnId reason => cases hevent

theorem Idled.foldl {events : List WireEvent} (hevents : ∀ event ∈ events, event.Idle) :
    Idled session (events.foldl HostedSession.normalize after) := by
  induction events generalizing after with
  | nil => exact h
  | cons event events ih =>
    exact ih (h.normalize (hevents event List.mem_cons_self))
      fun e he => hevents e (List.mem_cons_of_mem event he)

/-- A final text and the end of its turn, in a session in which no turn has ended. -/
theorem Idled.normalize_final {item : WireTranscript} (hended : session.endedTurns = ∅)
    (hfinal : item.status = .final) (reason : TurnEndReason) :
    let final := (after.normalize (.transcript item)).normalize (.turnEnded item.turnId reason)
    Foretells [] final.pending (some item.text) ∧ final.protocol = session.protocol ∧
      final.transport = session.transport := by
  have hstarted := h.ensureTurnStarted item.turnId
  have hmem : item.turnId ∈ (after.ensureTurnStarted item.turnId).startedTurns := by
    unfold HostedSession.ensureTurnStarted
    by_cases hknown : item.turnId ∈ after.startedTurns
    · rwa [if_pos hknown]
    · rw [if_neg hknown]
      exact Finset.mem_insert_self ..
  have hnotEnded : item.turnId ∉ (after.ensureTurnStarted item.turnId).endedTurns := by
    rw [hstarted.ended, hended]
    exact Finset.notMem_empty _
  generalize htaken : after.normalize (.transcript item) = taken
  have hagain : taken.ensureTurnStarted item.turnId = taken := by
    subst htaken
    exact if_pos hmem
  have hopen : item.turnId ∉ taken.endedTurns := by
    subst htaken
    exact hnotEnded
  dsimp only [HostedSession.normalize]
  rw [normalizeEnd, hagain, if_neg hopen]
  subst htaken
  refine ⟨?_, hstarted.protocol, hstarted.transport⟩
  show Foretells [] (_ ++ [_] ++ [_]) _
  rw [List.append_assoc]
  exact .final hstarted.pending hfinal

end

section Hearing

variable {audio : List ClientFrame} {transcript : Text} {known : Option Text}

theorem Hearing.of_eq {session' : HostedSession} (h : Hearing audio transcript events known session)
    (hprotocol : session'.protocol = session.protocol)
    (htransport : session'.transport = session.transport)
    (hended : session'.endedTurns = session.endedTurns) :
    Hearing audio transcript events known session' :=
  ⟨hprotocol.trans h.protocol, h.controls.of_eq htransport, h.foretells,
    fun hnone => hended.trans (h.ended hnone)⟩

/-- A frame is taken when no event is queued: then its final text is known. -/
theorem triple_takeFrame_hearing (frame : ServerFrame) :
    Triple (fun session => Hearing audio [] session.pending none session ∧ session.pending = [])
      (takeFrame frame)
      (fun _ session =>
        Hearing audio [] session.pending ((finalOf frame).map Prod.snd) session)
      (fun _ => True) := by
  refine triple_get fun session h => ?_
  obtain ⟨hhearing, hempty⟩ := h
  have hparse : Triple (· = session) (liftExcept (session.protocol.parseFrame frame))
      (fun parsed after => after = session ∧
        session.protocol.parseFrame frame = .ok parsed) (fun _ => True) :=
    triple_liftExcept (fun parsed hparsed _ hs => ⟨hs, hparsed⟩) fun _ _ => trivial
  refine triple_bind hparse fun parsed => triple_modify ?_
  rintro _ ⟨rfl, hparsed⟩
  rename_i session
  rw [hhearing.protocol] at hparsed
  obtain ⟨events, hevents, rfl⟩ := map_eq_ok.1 hparsed
  have hended := hhearing.ended rfl
  have hstart : Idled session { session with protocol := .assemblyAi true } :=
    ⟨by simp [hempty], rfl, hhearing.protocol.symm, rfl⟩
  rcases assemblyParse_cases hevents with ⟨hnone, hidle⟩ | ⟨order, item, hfinal, hstatus, rfl⟩
  · have hidled := hstart.foldl hidle
    rw [hnone]
    exact ⟨hidled.protocol.trans hhearing.protocol, hhearing.controls.of_eq hidled.transport,
      .nothing hidled.pending, fun _ => hidled.ended.trans hended⟩
  · obtain ⟨hforetells, hprotocol, htransport⟩ :=
      hstart.normalize_final hended hstatus .providerEndpoint
    rw [hfinal]
    exact ⟨hprotocol.trans hhearing.protocol, hhearing.controls.of_eq htransport, hforetells,
      fun hnone => nomatch hnone⟩

theorem triple_popEvent_hearing :
    Triple (fun session => Hearing audio transcript session.pending known session) popEvent
      (fun event session => match event with
        | some event => Hearing audio transcript (event :: session.pending) known session
        | none => Hearing audio transcript session.pending known session ∧ session.pending = [])
      (fun _ => True) := by
  refine triple_get fun session h => ?_
  cases hpending : session.pending with
  | nil =>
    refine triple_pure _ ?_
    rintro _ rfl
    exact ⟨h, hpending⟩
  | cons event pending =>
    rintro _ rfl
    show Hearing audio transcript (event :: pending) known _
    exact hpending ▸ h.of_eq rfl rfl rfl

/-- What an answer of `next_event` says about the final text to come. -/
def Answers (audio : List ClientFrame) (transcript : Text) (text : Option Text)
    (answer : NextEvent × List Arrival) (session : HostedSession) : Prop :=
  session.protocol = .assemblyAi true ∧ Controls audio session.transport ∧
    ∀ event, answer.1 = .returned (some event) → event = .cancelled ∨
      ∃ known, Hearing audio transcript (event :: session.pending) known session ∧
        known.or (firstFinal answer.2) = text

theorem Answers.of_none {text : Option Text} {answer : NextEvent × List Arrival}
    (h : Hearing audio transcript events known session)
    (hanswer : ∀ event, answer.1 = .returned (some event) → event = .cancelled) :
    Answers audio transcript text answer session :=
  ⟨h.protocol, h.controls, fun event hevent => .inl (hanswer event hevent)⟩

theorem hearing_cancelNow (h : Hearing audio transcript events known session) :
    Hearing audio transcript events known session.cancelNow := by
  unfold cancelNow HostedSession.cancel
  by_cases hstate : session.state ≠ .active
  · rw [if_pos hstate]
    exact h.of_eq rfl rfl rfl
  · rw [if_neg hstate]
    refine ⟨h.protocol, h.controls.concat ?_, h.foretells, h.ended⟩
    intro bytes hbytes
    rw [h.protocol] at hbytes
    cases hbytes

/-- **The loop** of `next_event` finds the first final text that arrives. -/
theorem triple_receiveLoop_hearing (arrivals : List Arrival) :
    Triple (fun session => Hearing audio [] session.pending none session ∧ session.pending = [])
      (receiveLoop arrivals) (Answers audio [] (firstFinal arrivals)) (fun _ => True) := by
  induction arrivals with
  | nil => exact triple_pure _ fun session h => .of_none h.1 fun event hevent => nomatch hevent
  | cons arrival arrivals ih =>
    have hends : Triple
        (fun session => Hearing audio [] session.pending none session ∧ session.pending = [])
        (endSession arrivals) (Answers audio [] (firstFinal (arrival :: arrivals)))
        (fun _ => True) := by
      refine triple_modify_bind (fun session => Hearing audio [] session.pending none session)
        (fun session h => h.1.of_eq rfl rfl rfl) ?_
      exact triple_pure _ fun session h => .of_none h fun event hevent => nomatch hevent
    cases arrival with
    | cancelled =>
      refine triple_modify_bind (fun session => Hearing audio [] [] none session) ?_ ?_
      · intro session h
        exact hearing_cancelNow ((h.2 ▸ h.1).of_eq rfl rfl rfl)
      · exact triple_pure _ fun session h => .of_none h fun event hevent => by cases hevent; rfl
    | timedOut => exact fun session h => trivial
    | failed => exact fun session h => trivial
    | ended => exact hends
    | frame frame =>
      unfold receiveLoop
      by_cases hclosed : frame = .closed
      · rw [if_pos hclosed]
        exact hends
      · rw [if_neg hclosed]
        refine triple_bind (triple_takeFrame_hearing frame) fun _ => ?_
        refine triple_bind triple_popEvent_hearing fun event => ?_
        cases event with
        | some event =>
          refine triple_pure _ fun session h => ⟨h.protocol, h.controls, fun other hother => ?_⟩
          cases hother
          exact .inr ⟨_, h, rfl⟩
        | none =>
          cases hfinal : finalOf frame with
          | some final =>
            intro session h
            have hforetells := h.1.foretells
            rw [h.2] at hforetells
            cases hforetells.of_nil.2
          | none =>
            rw [firstFinal, hfinal]
            exact ih

/-- **`next_event`** keeps what is known of the final text to come. -/
theorem triple_nextEvent_hearing (arrivals : List Arrival) :
    Triple (fun session => Hearing audio transcript session.pending known session)
      (nextEvent arrivals) (Answers audio transcript (known.or (firstFinal arrivals)))
      (fun _ => True) := by
  refine triple_get fun session h => ?_
  by_cases htold : session.cancellationEventPending
  · rw [if_pos htold]
    rintro _ rfl
    exact .of_none (h.of_eq rfl rfl rfl) fun event hevent => by cases hevent; rfl
  rw [if_neg htold]
  by_cases hstate : session.state ≠ .active
  · rw [if_pos hstate]
    rintro _ rfl
    exact .of_none h fun event hevent => nomatch hevent
  rw [if_neg hstate]
  by_cases hcancelled : session.cancellation
  · rw [if_pos hcancelled]
    rintro _ rfl
    exact .of_none (hearing_cancelNow h) fun event hevent => by cases hevent; rfl
  rw [if_neg hcancelled]
  refine triple_bind (triple_popEvent_hearing.mono (fun s hs => hs ▸ h) (fun _ _ h => h)
    fun _ h => h) fun event => ?_
  cases event with
  | some event =>
    refine triple_pure _ fun session h => ⟨h.protocol, h.controls, fun other hother => ?_⟩
    cases hother
    exact .inr ⟨_, h, rfl⟩
  | none =>
    intro session h
    obtain ⟨hhearing, hempty⟩ := h
    obtain ⟨rfl, rfl⟩ := (hempty ▸ hhearing.foretells).of_nil
    exact triple_receiveLoop_hearing arrivals session ⟨hhearing, hempty⟩

end Hearing

/-! ## The call -/

theorem triple_onSession {α : Type} {pre : HostedSession → Prop} {call : SessionCall α}
    {post : α → HostedSession → Prop} (h : Triple pre call post fun _ => True)
    (acknowledged : List (Nat × Nat)) :
    Triple (fun state => pre state.session ∧ state.acknowledged = acknowledged) (onSession call)
      (fun a state => post a state.session ∧ state.acknowledged = acknowledged)
      (fun _ => True) := by
  intro state hstate
  have hends := h state.session hstate.1
  have hrun : (onSession call) state = match call state.session with
      | (.ok a, session) => (.ok a, { state with session })
      | (.error error, session) =>
        (.error (.failed (mapSttError error)), { state with session }) := by
    unfold onSession
    rw [call_bind_get]
    cases call state.session with
    | mk result session => cases result <;> rfl
  rw [hrun]
  generalize call state.session = out at hends
  obtain ⟨error | a, session⟩ := out
  · trivial
  · exact ⟨hends, hstate.2⟩

/-- The frames and the acknowledgements that a call leaves. -/
def Leaves (audio : List ClientFrame) (acknowledged : List (Nat × Nat)) (state : Transcription) :
    Prop :=
  (state.session.protocol = .assemblyAi true ∧ Controls audio state.session.transport) ∧
    state.acknowledged = acknowledged

section Call

variable {audio : List ClientFrame} {acknowledged : List (Nat × Nat)}

/-- **The loop over the events** ends with the first final text. -/
theorem triple_readEvents (readings : List Bool) (arrivals : List Arrival) (heard : Heard)
    (known : Option Text) :
    Triple (fun state =>
        Hearing audio heard.transcript state.session.pending known state.session ∧
          state.acknowledged = acknowledged)
      (readEvents readings arrivals heard)
      (fun result state => Leaves audio acknowledged state ∧
        (result.transcript ≠ [] → known.or (firstFinal arrivals) = some result.transcript))
      (fun _ => True) := by
  induction readings generalizing arrivals heard known with
  | nil => exact fun state h => trivial
  | cons cancelled readings ih =>
    intro state h
    have hheard : heard.transcript ≠ [] →
        known.or (firstFinal arrivals) = some heard.transcript := by
      intro hne
      rw [h.1.foretells.of_ne hne]
      rfl
    revert state
    refine triple_modify_bind (fun state =>
      Hearing audio heard.transcript state.session.pending known state.session ∧
        state.acknowledged = acknowledged) (fun state h => ⟨h.1.of_eq rfl rfl rfl, h.2⟩) ?_
    refine triple_bind (triple_onSession (triple_nextEvent_hearing arrivals) acknowledged)
      fun answer => ?_
    obtain ⟨next, rest⟩ := answer
    match next with
    | .waiting => exact triple_throw _ fun state h => trivial
    | .returned none =>
      exact triple_pure _ fun state h => ⟨⟨⟨h.1.1, h.1.2.1⟩, h.2⟩, hheard⟩
    | .returned (some event) =>
      intro state h
      obtain ⟨⟨hprotocol, hcontrols, hanswer⟩, hacknowledged⟩ := h
      dsimp only
      rcases hanswer event rfl with rfl | ⟨known, hhearing, htext⟩
      · trivial
      · have hnext := hhearing.foretells.hear
        generalize hear event heard = verdict at hnext ⊢
        cases verdict with
        | goOn heard =>
          rw [← htext]
          exact ih rest heard known state
            ⟨⟨hprotocol, hcontrols, hnext, hhearing.ended⟩, hacknowledged⟩
        | stop => exact ⟨⟨⟨hprotocol, hcontrols⟩, hacknowledged⟩, hheard⟩
        | cancelled => trivial
        | failed error => trivial

/-- A session to which the audio has been sent, and of which no event has been read. -/
structure Ready (audio : List ClientFrame) (session : HostedSession) : Prop where
  protocol : session.protocol = .assemblyAi true
  transport : session.transport = audio
  pending : session.pending = []
  ended : session.endedTurns = ∅

theorem triple_ensureActive_ready :
    Triple (Ready audio) ensureActive (fun _ => Ready audio) (fun _ => True) := by
  refine triple_modify_bind (fun session => session.state = .active → Ready audio session) ?_ ?_
  · intro session h
    by_cases hcancelled : session.cancellation ∧ session.state = .active
    · rw [if_pos hcancelled]
      intro hactive
      rw [HostedSession.cancel, if_neg (not_not.2 hcancelled.2)] at hactive
      cases hactive
    · rw [if_neg hcancelled]
      exact fun _ => h
  · refine triple_get fun session h => ?_
    by_cases hactive : session.state = .active
    · rw [if_pos hactive]
      rintro _ rfl
      exact h hactive
    · rw [if_neg hactive]
      exact fun _ _ => trivial

theorem triple_sendWithTimeout_ready (frame : ClientFrame) (outcome : SendOutcome)
    (timeoutMessage : String) :
    Triple (Ready audio) (sendWithTimeout frame outcome timeoutMessage)
      (fun _ => Ready (audio ++ [frame])) (fun _ => True) := by
  refine triple_modify_bind (Ready (audio ++ [frame])) ?_ ?_
  · intro session h
    exact ⟨h.protocol, congrArg (· ++ [frame]) h.transport, h.pending, h.ended⟩
  · cases outcome with
    | sent => exact triple_pure _ fun _ h => h
    | timedOut => exact fun _ _ => trivial
    | failed => exact fun _ _ => trivial

theorem triple_sendAudio_ready (base64 : List UInt8 → Text) {pcm : List UInt8} (hpcm : pcm ≠ [])
    (outcome : SendOutcome) :
    Triple (Ready audio) (sendAudio base64 pcm outcome)
      (fun _ => Ready (audio ++ [.binary pcm])) (fun _ => True) := by
  refine triple_bind triple_ensureActive_ready fun _ => ?_
  rw [if_neg hpcm]
  by_cases hlong : pcm.length > 1024 * 1024
  · rw [if_pos hlong]
    exact fun _ _ => trivial
  · rw [if_neg hlong]
    refine triple_get fun session h => ?_
    rw [h.protocol]
    rintro _ rfl
    exact triple_sendWithTimeout_ready (.binary pcm) outcome "audio send timed out" _ h

theorem triple_flush_ready (reason : FlushReason) (outcome : SendOutcome) :
    Triple (Ready audio) (HostedSession.flush reason outcome)
      (fun _ session => Hearing audio [] session.pending none session) (fun _ => True) := by
  refine triple_bind triple_ensureActive_ready fun _ => triple_get fun session h => ?_
  rw [h.protocol]
  refine triple_bind ((triple_sendWithTimeout_ready _ outcome "flush send timed out").mono
    (fun s hs => hs ▸ h) (fun _ _ h => h) fun _ h => h) fun _ => triple_modify fun session h => ?_
  refine ⟨h.protocol, ?_, ?_, fun _ => h.ended⟩
  · exact ⟨_, h.transport, by simp [ProviderSession.flushFrame]⟩
  · exact .nothing (by simp [h.pending])

/-- Closing sends no audio. -/
theorem triple_close_controls (outcome : SendOutcome) (closes : Bool) :
    Triple (fun session => session.protocol = .assemblyAi true ∧ Controls audio session.transport)
      (HostedSession.close outcome closes)
      (fun _ session => Controls audio session.transport) (fun _ => True) := by
  refine triple_get fun session h => ?_
  by_cases hactive : session.state = .active
  · rw [if_pos hactive, h.1]
    have hsend : Triple (· = session)
        (sendWithTimeout (ProviderSession.closeFrame (.assemblyAi true)) outcome
          "close send timed out")
        (fun _ session => Controls audio session.transport) (fun _ => True) := by
      refine triple_modify_bind (fun session => Controls audio session.transport) ?_ ?_
      · rintro _ rfl
        exact h.2.concat fun bytes => by simp [ProviderSession.closeFrame]
      · cases outcome with
        | sent => exact triple_pure _ fun _ h => h
        | timedOut => exact fun _ _ => trivial
        | failed => exact fun _ _ => trivial
    refine triple_bind hsend fun _ => ?_
    cases closes with
    | false => exact fun _ _ => trivial
    | true => exact triple_modify fun _ h => h
  · rw [if_neg hactive]
    rintro _ rfl
    exact h.2

theorem acknowledgements_cons (sent : Nat) (chunk : NativePcmChunk) (chunks : List NativePcmChunk) :
    acknowledgements sent (chunk :: chunks) =
      (chunk.sequence, sent + 1) :: acknowledgements (sent + 1) chunks := by
  simp only [acknowledgements, List.mapIdx_cons, Nat.add_zero]
  congr 2
  funext index chunk
  congr 1
  omega

theorem triple_acknowledge (sequence : Nat) (taken : Bool) :
    Triple (fun state => Ready audio state.session ∧ state.acknowledged = acknowledged)
      (acknowledge sequence taken)
      (fun _ state => Ready audio state.session ∧
        state.acknowledged = acknowledged ++ [(sequence, audio.length)])
      (fun _ => True) := by
  refine triple_modify_bind (fun state => Ready audio state.session ∧
    state.acknowledged = acknowledged ++ [(sequence, audio.length)]) ?_ ?_
  · intro state h
    refine ⟨h.1, ?_⟩
    rw [h.2, h.1.transport]
  · exact triple_liftExcept (fun _ _ _ h => h) fun _ _ => trivial

/-- **The loop over the chunks** sends and acknowledges every chunk in its turn. -/
theorem triple_sendChunks (base64 : List UInt8 → Text) (identity : NativePcmIdentity)
    (input : List InputMoment) (sent : Sent) :
    Triple (fun state => Ready audio state.session ∧ state.acknowledged = acknowledged)
      (sendChunks base64 identity input sent)
      (fun _ state =>
        Ready (audio ++ (input.filterMap InputMoment.given).map NativePcmChunk.frame)
          state.session ∧
        state.acknowledged = acknowledged ++
          acknowledgements audio.length (input.filterMap InputMoment.given))
      (fun _ => True) := by
  induction input generalizing audio acknowledged sent with
  | nil => exact triple_pure _ fun state h => by simpa [acknowledgements] using h
  | cons moment input ih =>
    cases moment with
    | cancelled => exact fun _ _ => trivial
    | failed => exact fun _ _ => trivial
    | chunk chunk cancelled send taken =>
      have hgiven : (InputMoment.chunk chunk cancelled send taken).given = some chunk := rfl
      rw [List.filterMap_cons_some hgiven, List.map_cons, acknowledgements_cons,
        List.append_cons audio, List.append_cons acknowledged]
      have hchecked : Triple
          (fun state : Transcription =>
            Ready audio state.session ∧ state.acknowledged = acknowledged)
          (liftExcept (require (chunkIsValid chunk identity sent.expectedSequence)
            (Halt.failed .invalidNativeInput)) : TranscribeCall Unit)
          (fun _ state => chunk.pcmS16le ≠ [] ∧ Ready audio state.session ∧
            state.acknowledged = acknowledged) (fun _ => True) := by
        refine triple_liftExcept (fun _ hvalid state h => ⟨?_, h⟩) fun _ _ => trivial
        have hvalid := require_eq_ok.1 hvalid
        simp only [chunkIsValid, Bool.and_eq_true] at hvalid
        intro hempty
        simp [hempty] at hvalid
      refine triple_bind hchecked fun _ => ?_
      intro state h
      obtain ⟨hne, h⟩ := h
      revert state
      refine triple_modify_bind (fun state => Ready audio state.session ∧
        state.acknowledged = acknowledged) ?_ ?_
      · intro state h
        exact ⟨⟨h.1.protocol, h.1.transport, h.1.pending, h.1.ended⟩, h.2⟩
      refine triple_bind (triple_onSession (triple_sendAudio_ready base64 hne send) acknowledged)
        fun _ => ?_
      refine triple_bind (triple_acknowledge chunk.sequence taken) fun _ => ?_
      have hlength : (audio ++ [ClientFrame.binary chunk.pcmS16le]).length = audio.length + 1 := by
        simp
      rw [hlength]
      have hrest := @ih (audio ++ [chunk.frame])
        (acknowledged ++ [(chunk.sequence, audio.length + 1)]) {
          expectedSequence := satAdd sent.expectedSequence 1
          chunksSent := satAdd sent.chunksSent 1
          pcmBytesSent := satAdd sent.pcmBytesSent chunk.pcmS16le.length }
      rw [NativePcmChunk.frame, hlength] at hrest
      exact hrest

/-- What the call comes to when it returns a result. -/
def Returned (audio : List ClientFrame) (utterance : Utterance) (result : SelectedSttResult)
    (state : Transcription) : Prop :=
  (Controls (audio ++ utterance.chunks.map NativePcmChunk.frame) state.session.transport ∧
    state.acknowledged = acknowledgements audio.length utterance.chunks) ∧
    firstFinal utterance.arrivals = some result.transcript

theorem triple_converse (base64 : List UInt8 → Text) (route : SelectedProviderRoute)
    (request : SelectedSttTurnRequest) (utterance : Utterance) :
    Triple (fun state => Ready audio state.session ∧ state.acknowledged = [])
      (converse base64 route request utterance) (Returned audio utterance) (fun _ => True) := by
  let sound (state : Transcription) : Prop :=
    Ready (audio ++ utterance.chunks.map NativePcmChunk.frame) state.session ∧
      state.acknowledged = acknowledgements audio.length utterance.chunks
  have hinput : Triple (fun state => Ready audio state.session ∧ state.acknowledged = [])
      (sendInput base64 request utterance) (fun _ => sound) (fun _ => True) := by
    refine triple_bind (triple_sendChunks base64 request.identity utterance.input ⟨1, 0, 0⟩)
      fun sent => ?_
    by_cases hnone : sent.chunksSent = 0
    · rw [if_pos hnone]
      exact fun _ _ => trivial
    · rw [if_neg hnone]
      exact triple_pure _ fun _ h => h
  have hfinish : Triple sound (finishInput request utterance) (fun _ => sound)
      (fun _ => True) := by
    unfold finishInput
    cases utterance.receipt with
    | none => exact fun _ _ => trivial
    | some receipt =>
      dsimp only
      by_cases hvalid : receiptIsValid receipt request utterance.activation
      · rw [if_pos hvalid]
        exact triple_pure _ fun _ h => h
      · rw [if_neg hvalid]
        exact fun _ _ => trivial
  refine triple_bind hinput fun sent => triple_bind hfinish fun receipt => ?_
  refine triple_modify_bind sound
    (fun state h => ⟨⟨h.1.protocol, h.1.transport, h.1.pending, h.1.ended⟩, h.2⟩) ?_
  refine triple_bind (triple_onSession (triple_flush_ready .pushToTalkReleased utterance.flush) _)
    fun _ => ?_
  refine triple_bind (triple_readEvents utterance.readings utterance.arrivals ⟨[], 0⟩ none)
    fun heard => ?_
  intro state h
  obtain ⟨hleaves, hheard⟩ := h
  revert state
  refine triple_bind (triple_onSession (triple_close_controls utterance.close utterance.closes) _)
    fun _ => ?_
  by_cases hempty : heard.transcript = []
  · simp only [hempty, List.isEmpty_nil, Bool.not_true]
    exact fun _ _ => trivial
  · have hnotEmpty : (!heard.transcript.isEmpty) = true := by simpa using hempty
    rw [hnotEmpty]
    exact fun state h => ⟨h, hheard hempty⟩

end Call

/-! ## The utterance -/

/-- What is promised of an utterance. -/
structure TranscribedWhole (utterance : Utterance) (result : SelectedSttResult)
    (state : Transcription) : Prop where
  /-- The audio that is sent is the chunks, once and in order. -/
  sent : ∃ started, utterance.started = .ok started ∧
    Controls (started ++ utterance.chunks.map NativePcmChunk.frame) state.session.transport ∧
    state.acknowledged = acknowledgements started.length utterance.chunks
  /-- The transcript has the last final text of every turn, in the order of the turns. -/
  text : InOrder (lastFinals utterance.finals) result.transcript

/-- **An utterance is transcribed whole** exactly when the first final text up to the end of the turn
that the flush closed has the last final texts of all turns in it. -/
theorem transcribed_whole_iff (base64 : List UInt8 → Text) (route : SelectedProviderRoute)
    (request : SelectedSttTurnRequest) (utterance : Utterance) (result : SelectedSttResult)
    (state : Transcription)
    (h : transcribePushToTalk base64 route request utterance = .ok (result, state)) :
    TranscribedWhole utterance result state ↔
      ∀ first rest, utterance.finals = first :: rest →
        InOrder (lastFinals utterance.finals) first.2 := by
  obtain ⟨start, hstart, h⟩ := bind_eq_ok.1 h
  obtain ⟨_, -, hstart⟩ := bind_eq_ok.1 hstart
  obtain ⟨_, -, hstart⟩ := bind_eq_ok.1 hstart
  obtain ⟨_, -, hstart⟩ := bind_eq_ok.1 hstart
  obtain ⟨transport, htransport, hstart⟩ := bind_eq_ok.1 hstart
  have hstarted : utterance.started = .ok transport := mapError_eq_ok.1 htransport
  have hready : Ready transport start.session ∧ start.acknowledged = [] := by
    cases hstart
    exact ⟨⟨rfl, rfl, rfl, rfl⟩, rfl⟩
  have hcall : converse base64 route request utterance start = (.ok result, state) := by
    generalize converse base64 route request utterance start = out at h
    obtain ⟨answer, after⟩ := out
    obtain ⟨answer, rfl, h⟩ := bind_eq_ok.1 h
    cases h
    rfl
  obtain ⟨⟨hcontrols, hacknowledged⟩, hfirst⟩ :=
    (triple_converse base64 route request utterance).ok hready hcall
  constructor
  · intro hwhole first rest hfinals
    have htext := hwhole.text
    rw [firstFinal_of_finals hfinals, Option.some.injEq] at hfirst
    rwa [hfirst]
  · intro hinOrder
    refine ⟨⟨transport, hstarted, hcontrols, hacknowledged⟩, ?_⟩
    cases hfinals : utterance.finals with
    | nil => trivial
    | cons first rest =>
      have htext := hinOrder first rest hfinals
      rw [firstFinal_of_finals hfinals, Option.some.injEq] at hfirst
      rwa [hfinals, hfirst] at htext

theorem InOrder.length_le {parts : List Text} (h : InOrder parts text) :
    (parts.map List.length).sum ≤ text.length := by
  induction parts generalizing text with
  | nil => simp
  | cons part parts ih =>
    obtain ⟨gap, rest, rfl, hrest⟩ := h
    have hle := ih hrest
    simp only [List.map_cons, List.sum_cons, List.length_append]
    omega

/-- The frame of a turn with a text, which may be its last. -/
def turnFrame (order : Nat) (transcript : Text) (endOfTurn : Bool) : ServerFrame :=
  .text (some (jsonObject [("type", .string "Turn".toList), ("turn_order", .number (.posInt order)),
    ("transcript", .string transcript), ("end_of_turn", .bool endOfTurn)]))

/-- Two chunks, after which the key is released. -/
def shortUtterance (early : List ServerFrame) (late : List Arrival) : Utterance :=
  let identity : NativePcmIdentity := ⟨['s'], ['t'], 1, ['e'], 1⟩
  let activation : NativePcmActivation := ⟨0x56, 1, 1⟩
  { identity, activation
    format := .pcm16KhzMono
    cancelledBefore := false
    credential := true
    started := .ok []
    input := [.chunk ⟨identity, 1, 1, 1, [0, 0]⟩ false .sent true,
      .chunk ⟨identity, 2, 2, 2, [1, 0, 2, 0]⟩ false .sent true]
    receipt := some ⟨identity, activation, 3, true, false, false, 2, 2⟩
    cancelledAtFlush := false
    flush := .sent
    early, late
    readings := [false, false, false, false]
    close := .sent
    closes := true }

def shortRequest : SelectedSttTurnRequest := ⟨⟨['s'], ['t'], 1, ['e'], 1⟩, .initial, none⟩

/-- The one turn of an utterance is transcribed, of which a part is heard before the key is
released. -/
theorem transcribed_whole_single :
    let utterance := shortUtterance [turnFrame 0 ['a'] false] [.frame (turnFrame 0 ['a', 'b'] true)]
    ∃ result state,
      transcribePushToTalk (fun _ => []) ⟨[], []⟩ shortRequest utterance = .ok (result, state) ∧
      (result.chunksSent, result.pcmBytesSent, result.partialEvents) = (2, 6, 1) ∧
      TranscribedWhole utterance result state := by
  intro utterance
  have hrun : (transcribePushToTalk (fun _ => []) ⟨[], []⟩ shortRequest utterance).map (fun out =>
      (out.1.chunksSent, out.1.pcmBytesSent, out.1.partialEvents)) = .ok (2, 6, 1) := by
    decide +kernel
  obtain ⟨⟨result, state⟩, hrun, hcounts⟩ := map_eq_ok.1 hrun
  refine ⟨result, state, hrun, hcounts, (transcribed_whole_iff _ _ _ _ _ _ hrun).2 ?_⟩
  have hfinals : utterance.finals = [(0, ['a', 'b'])] := by decide
  intro first rest hfirst
  rw [hfinals] at hfirst ⊢
  obtain ⟨rfl, -⟩ := List.cons.inj hfirst
  exact ⟨[], [], rfl, trivial⟩

/-- A turn that ends before the key is released, and the turn that the flush closes: the text of the
second is dropped. -/
theorem second_turn_dropped : ¬ ∀ (base64 : List UInt8 → Text) (route : SelectedProviderRoute)
    (request : SelectedSttTurnRequest) (utterance : Utterance) (result : SelectedSttResult)
    (state : Transcription),
    transcribePushToTalk base64 route request utterance = .ok (result, state) →
      TranscribedWhole utterance result state := by
  intro h
  have hrun : (transcribePushToTalk (fun _ => []) ⟨[], []⟩ shortRequest
      (shortUtterance [turnFrame 0 ['a'] true] [.frame (turnFrame 1 ['b'] true)])).map
        (fun out => out.1.transcript) = .ok ['a'] := by rfl
  obtain ⟨⟨result, state⟩, hrun, htranscript⟩ := map_eq_ok.1 hrun
  have htext := (h _ _ _ _ result state hrun).text.length_le
  rw [htranscript] at htext
  revert htext
  decide

end NpcRuntime.Recognition
