import NpcRuntime.Response.Scan

/-!
# The scanner on a growing text

The speech-first scanner starts over on every delta. Two facts make that sound, each a simulation of
one round that is carried to the whole scan by induction:

* what a scan has read, a scan of a longer text reads again (`Scans.extend`), so a spoken response
  that was reported once is not reported differently later (`scan_spoken_stable`);
* when the scan of a text completes, the scan of each of its prefixes waits or completes
  (`scan_prefix_ok`).

Both rest on how `serde_json` reads values (`SerdeJson.Lawful`): a value is read the same way from
every text that holds it whole, and at a proper prefix of it the reader waits for more, except that
a prefix of a number may be a number.
-/

namespace NpcRuntime.Response

open Text Json

/-! ## The parser -/

/-- The reader stopped at the end of the text. -/
def Waits {α : Type} (item : Option (Except Json.Error α)) : Prop :=
  item = none ∨ ∃ error, item = some (.error error) ∧ error.isEof = true

/-- One member of an object, from the text before its name, and the text behind its comma or from
the closing brace on. -/
def readMember (serde : SerdeJson) (rest : Text) : Option ((Text × Value) × Text) := do
  let .ok (key, keyLength) ← serde.nextString (skipJsonWhitespace rest) | none
  let ':' :: rest ← some (skipJsonWhitespace ((skipJsonWhitespace rest).drop keyLength)) | none
  let .ok (value, valueLength) ← serde.next (skipJsonWhitespace rest) | none
  match skipJsonWhitespace ((skipJsonWhitespace rest).drop valueLength) with
  | [] => none
  | ch :: rest =>
    if ch = ',' then some ((key, value), rest)
    else if ch = '}' then some ((key, value), ch :: rest)
    else none

def readMembers (serde : SerdeJson) : Nat → Text → Option (List (Text × Value))
  | 0, _ => none
  | fuel + 1, rest =>
    match skipJsonWhitespace rest with
    | [] => none
    | ch :: tail =>
      if ch = '}' then if skipJsonWhitespace tail = [] then some [] else none
      else do
        let (member, rest) ← readMember serde rest
        let members ← readMembers serde fuel rest
        some (member :: members)

/-- The members of the object that the text holds and nothing else. -/
def readObject (serde : SerdeJson) (raw : Text) : Option (List (Text × Value)) :=
  match skipJsonWhitespace raw with
  | [] => none
  | ch :: rest => if ch = '{' then readMembers serde (rest.length + 1) rest else none

/-- How `serde_json` reads values. -/
structure SerdeJson.Lawful (serde : SerdeJson) : Prop where
  next_whole : ∀ t u value n, serde.next (t ++ u) = some (.ok (value, n)) → n ≤ t.length →
    serde.next t = some (.ok (value, n))
  next_more : ∀ t u value n, serde.next t = some (.ok (value, n)) → n < t.length →
    serde.next (t ++ u) = some (.ok (value, n))
  next_part : ∀ t u value n, t ≠ [] → serde.next (t ++ u) = some (.ok (value, n)) → t.length < n →
    Waits (serde.next t) ∨
      ∃ part whole, serde.next t = some (.ok (.number part, t.length)) ∧ value = .number whole
  nextString_whole : ∀ t u key n, serde.nextString (t ++ u) = some (.ok (key, n)) → n ≤ t.length →
    serde.nextString t = some (.ok (key, n))
  nextString_more : ∀ t u key n, serde.nextString t = some (.ok (key, n)) → n < t.length →
    serde.nextString (t ++ u) = some (.ok (key, n))
  nextString_part : ∀ t u key n, t ≠ [] → serde.nextString (t ++ u) = some (.ok (key, n)) →
    t.length < n → Waits (serde.nextString t)
  schema_typed : ∀ t value n schema, serde.next t = some (.ok (value, n)) →
    serde.schemaFromStr (t.take n) = .ok schema → decodeSchemaVersion value = .ok schema
  spoken_typed : ∀ t value n spoken, serde.next t = some (.ok (value, n)) →
    serde.spokenFromStr (t.take n) = .ok spoken → decodeSpoken value = .ok spoken
  object_members : ∀ raw value members, serde.fromStr raw = .ok value →
    readObject serde raw = some members → (members.map Prod.fst).Nodup →
    ∃ object, value = .object object ∧ ∀ key, object.lookup key = members.lookup key

variable {serde : SerdeJson}

/-! ## Reading a value -/

section Reading

variable {α : Type} {next : Text → Option (Except Json.Error (α × Nat))} {t u : Text}

theorem parseComplete_eq_some {item : α × Nat} :
    parseCompleteJsonValue next t = .ok (some item) ↔ t ≠ [] ∧ next t = some (.ok item) := by
  unfold parseCompleteJsonValue
  by_cases ht : t = []
  · simp [ht]
  · rw [if_neg ht]
    cases next t with
    | none => simp
    | some result =>
      cases result with
      | ok found => simp [ht]
      | error error => cases herror : error.isEof <;> simp [herror]

theorem parseComplete_of_waits (h : Waits (next t)) :
    parseCompleteJsonValue next t = .ok none := by
  unfold parseCompleteJsonValue
  by_cases ht : t = []
  · rw [if_pos ht]
  · rw [if_neg ht]
    rcases h with hnone | ⟨error, herror, heof⟩
    · rw [hnone]
    · simp only [herror, heof, if_true]

theorem parseComplete_nil : parseCompleteJsonValue next [] = .ok none := if_pos rfl

theorem skip_append (h : skipJsonWhitespace t ≠ []) :
    skipJsonWhitespace (t ++ u) = skipJsonWhitespace t ++ u := by
  simp only [skipJsonWhitespace] at h ⊢
  rw [List.dropWhile_append]
  simp [h]

theorem skip_append_nil (h : skipJsonWhitespace (t ++ u) = []) : skipJsonWhitespace t = [] := by
  by_contra hne
  rw [skip_append hne] at h
  exact hne (List.append_eq_nil_iff.1 h).1

end Reading

/-! ## One round -/

/-- A round that goes on has read one member: its name, its colon, its value, and a comma or the
closing brace behind it. -/
inductive ReadsMember (serde : SerdeJson) (s : ScanState) : ScanState → Text → Value → Prop
  | intro {name field behindColon behind next : Text} {value : Value} {nameLength valueLength : Nat}
      {gate : SpeechGate} {delimiter : Char} (hname : skipJsonWhitespace s.rest = name)
      (hopen : name ≠ [] ∧ name.head? ≠ some '}')
      (hfield : serde.nextString name = some (.ok (field, nameLength)))
      (hcolon : skipJsonWhitespace (name.drop nameLength) = ':' :: behindColon)
      (hfresh : field ∉ s.fields) (hsupported : topLevelFields.any (·.toList == field) = true)
      (hstart : skipJsonWhitespace behindColon ≠ [])
      (hvalue : serde.next (skipJsonWhitespace behindColon) = some (.ok (value, valueLength)))
      (haccept : acceptField serde field ((skipJsonWhitespace behindColon).take valueLength)
        s.gate = .ok gate)
      (hdelimiter : skipJsonWhitespace ((skipJsonWhitespace behindColon).drop valueLength) =
        delimiter :: behind)
      (hnext : (delimiter = ',' ∧ next = behind) ∨ (delimiter = '}' ∧ next = delimiter :: behind)) :
      ReadsMember serde s ⟨next, field :: s.fields, gate⟩ field value

variable {gate : SpeechGate} {scan : SpeechFirstEnvelopeScan} {complete : Bool}

section Round

variable {s s' : ScanState} {field : Text}

theorem scanDelimiter_again :
    scanDelimiter s = .ok (.again s') ↔ ∃ delimiter behind next,
      skipJsonWhitespace s.rest = delimiter :: behind ∧ s' = { s with rest := next } ∧
        ((delimiter = ',' ∧ next = behind) ∨ (delimiter = '}' ∧ next = delimiter :: behind)) := by
  unfold scanDelimiter
  cases skipJsonWhitespace s.rest with
  | nil => simp
  | cons ch rest =>
    simp only [List.cons.injEq]
    constructor
    · intro h
      split_ifs at h with hcomma hbrace
      · exact ⟨ch, rest, rest, ⟨rfl, rfl⟩, by simpa using (Except.ok.inj h).symm,
          .inl ⟨hcomma, rfl⟩⟩
      · exact ⟨ch, rest, ch :: rest, ⟨rfl, rfl⟩, by simpa using (Except.ok.inj h).symm,
          .inr ⟨hbrace, rfl⟩⟩
    · rintro ⟨_, _, _, ⟨rfl, rfl⟩, rfl, ⟨rfl, rfl⟩ | ⟨rfl, rfl⟩⟩
      · simp
      · simp

theorem scanValue_again :
    scanValue serde field s = .ok (.again s') ↔ ∃ value valueLength gate,
      skipJsonWhitespace s.rest ≠ [] ∧
      serde.next (skipJsonWhitespace s.rest) = some (.ok (value, valueLength)) ∧
      acceptField serde field ((skipJsonWhitespace s.rest).take valueLength) s.gate = .ok gate ∧
      scanDelimiter ⟨(skipJsonWhitespace s.rest).drop valueLength, s.fields, gate⟩ =
        .ok (.again s') := by
  simp only [scanValue, bind_eq_ok]
  constructor
  · rintro ⟨item, hitem, h⟩
    cases item with
    | none => cases h
    | some item =>
      obtain ⟨hne, hnext⟩ := parseComplete_eq_some.1 hitem
      obtain ⟨gate, hgate, hdelimiter⟩ := bind_eq_ok.1 h
      exact ⟨item.1, item.2, gate, hne, hnext, hgate, hdelimiter⟩
  · rintro ⟨value, valueLength, gate, hne, hnext, hgate, hdelimiter⟩
    refine ⟨some (value, valueLength), parseComplete_eq_some.2 ⟨hne, hnext⟩, ?_⟩
    exact bind_eq_ok.2 ⟨gate, hgate, hdelimiter⟩

theorem scanField_again :
    scanField serde field s = .ok (.again s') ↔ ∃ behindColon,
      skipJsonWhitespace s.rest = ':' :: behindColon ∧ field ∉ s.fields ∧
      topLevelFields.any (·.toList == field) = true ∧
      scanValue serde field ⟨behindColon, field :: s.fields, s.gate⟩ = .ok (.again s') := by
  unfold scanField
  cases skipJsonWhitespace s.rest with
  | nil => simp
  | cons ch rest =>
    by_cases hcolon : ch = ':'
    · by_cases hfresh : field ∈ s.fields
      · simp [hcolon, hfresh]
      · by_cases hsupported : topLevelFields.any (·.toList == field) = true
        · simp [hcolon, hfresh, hsupported]
        · simp [hcolon, hfresh, hsupported]
    · simp [hcolon]

/-- **A round goes on exactly when it has read a member.** -/
theorem scanRound_again :
    scanRound serde s = .ok (.again s') ↔ ∃ field value, ReadsMember serde s s' field value := by
  unfold scanRound
  constructor
  · intro h
    cases hskip : skipJsonWhitespace s.rest with
    | nil =>
      rw [hskip] at h
      cases h
    | cons ch rest =>
      simp only [hskip] at h
      split_ifs at h with hbrace
      · obtain ⟨scan, -, hdone⟩ := map_eq_ok.1 h
        cases hdone
      · obtain ⟨item, hitem, h⟩ := bind_eq_ok.1 h
        cases item with
        | none => cases h
        | some item =>
          obtain ⟨-, hname⟩ := parseComplete_eq_some.1 hitem
          obtain ⟨behindColon, hcolon, hfresh, hsupported, h⟩ := scanField_again.1 h
          obtain ⟨value, valueLength, gate, hstart, hvalue, haccept, h⟩ := scanValue_again.1 h
          obtain ⟨delimiter, behind, next, hdelimiter, rfl, hnext⟩ := scanDelimiter_again.1 h
          exact ⟨item.1, value, .intro hskip (by simp [hbrace]) hname hcolon hfresh hsupported
            hstart hvalue haccept hdelimiter hnext⟩
  · rintro ⟨field, value, hread⟩
    obtain ⟨hname, hopen, hfield, hcolon, hfresh, hsupported, hstart, hvalue, haccept, hdelimiter,
      hnext⟩ := hread
    rename_i name behindColon behind next nameLength valueLength gate delimiter
    obtain ⟨ch, rest, rfl⟩ := List.exists_cons_of_ne_nil hopen.1
    have hbrace : ch ≠ '}' := by simpa using hopen.2
    simp only [hname, if_neg hbrace]
    refine bind_eq_ok.2 ⟨_, parseComplete_eq_some.2 ⟨hopen.1, hfield⟩, ?_⟩
    refine scanField_again.2 ⟨behindColon, hcolon, hfresh, hsupported, ?_⟩
    refine scanValue_again.2 ⟨value, valueLength, gate, hstart, hvalue, haccept, ?_⟩
    exact scanDelimiter_again.2 ⟨delimiter, behind, next, hdelimiter, rfl, hnext⟩

/-- What a scan reports before the object ends is nothing, or what the gate holds. -/
def Reports (gate : SpeechGate) (scan : SpeechFirstEnvelopeScan) : Prop :=
  scan.complete = false ∧ (scan.spokenResponse = none ∨ scan.spokenResponse = gate.spokenResponse)

theorem reports_progress (gate : SpeechGate) : Reports gate (speechFirstScanProgress gate) := by
  refine ⟨rfl, ?_⟩
  simp only [speechFirstScanProgress]
  split_ifs
  · exact .inr rfl
  · exact .inl rfl

theorem scanDelimiter_done (h : scanDelimiter s = .ok (.done scan)) : Reports gate scan := by
  unfold scanDelimiter at h
  split at h
  · cases h
    exact ⟨rfl, .inl rfl⟩
  · split_ifs at h <;> cases h

theorem scanValue_done (h : scanValue serde field s = .ok (.done scan)) : Reports s.gate scan := by
  simp only [scanValue, bind_eq_ok] at h
  obtain ⟨item, -, h⟩ := h
  cases item with
  | none =>
    cases h
    exact reports_progress s.gate
  | some item =>
    obtain ⟨gate, -, h⟩ := bind_eq_ok.1 h
    exact scanDelimiter_done h

theorem scanField_done (h : scanField serde field s = .ok (.done scan)) : Reports s.gate scan := by
  unfold scanField at h
  split at h
  · cases h
    exact reports_progress s.gate
  · split_ifs at h
    have hreports := scanValue_done h
    exact hreports

/-- The scan closes the object, and both fields it requires are there. -/
structure Closes (s : ScanState) (scan : SpeechFirstEnvelopeScan) : Prop where
  brace : ∃ tail, skipJsonWhitespace s.rest = '}' :: tail ∧ skipJsonWhitespace tail = []
  schema : s.gate.schemaVersionValidated = true
  spoken : s.gate.spokenResponse.isSome = true
  scan_eq : scan = ⟨s.gate.spokenResponse, true⟩

/-- A round that returns reports what the gate holds, or closes the object. -/
theorem scanRound_done (h : scanRound serde s = .ok (.done scan)) :
    Reports s.gate scan ∨ Closes s scan := by
  unfold scanRound at h
  cases hskip : skipJsonWhitespace s.rest with
  | nil =>
    rw [hskip] at h
    cases h
    exact .inl (reports_progress s.gate)
  | cons ch rest =>
    simp only [hskip] at h
    split_ifs at h with hbrace
    · obtain ⟨closed, hclose, hdone⟩ := map_eq_ok.1 h
      cases hdone
      unfold scanClose at hclose
      split_ifs at hclose with htrail hgate
      cases hclose
      rw [Bool.or_eq_true, not_or] at hgate
      refine .inr ⟨⟨rest, by rw [hskip, hbrace], not_not.1 htrail⟩, ?_, ?_, rfl⟩
      · simpa using hgate.1
      · simpa [Option.isSome_iff_ne_none] using hgate.2
    · obtain ⟨item, -, h⟩ := bind_eq_ok.1 h
      cases item with
      | none =>
        cases h
        exact .inl (reports_progress s.gate)
      | some item =>
        have hreports := scanField_done h
        exact .inl hreports

/-- A spoken response that a round reports is in the gate. -/
theorem scanRound_done_spoken {spoken : SpokenResponseV1}
    (h : scanRound serde s = .ok (.done ⟨some spoken, complete⟩)) :
    s.gate.spokenResponse = some spoken := by
  rcases scanRound_done h with ⟨-, hnone | hsame⟩ | hcloses
  · cases hnone
  · exact hsame.symm
  · have heq := hcloses.scan_eq
    simp only [SpeechFirstEnvelopeScan.mk.injEq] at heq
    exact heq.1.symm

theorem scanRound_of_closes (h : Closes s scan) : scanRound serde s = .ok (.done scan) := by
  obtain ⟨⟨tail, hskip, htail⟩, hschema, hspoken, rfl⟩ := h
  have hnone : s.gate.spokenResponse.isNone = false := by
    rw [Option.isNone_eq_false_iff]
    exact hspoken
  simp [scanRound, hskip, scanClose, htail, hschema, hnone, Except.map]

end Round

/-! ## Whole scans -/

/-- The scan from a state on, round by round. -/
inductive Scans (serde : SerdeJson) :
    ScanState → Except ResponseValidationError SpeechFirstEnvelopeScan → Prop
  | error {s : ScanState} {error : ResponseValidationError} :
      scanRound serde s = .error error → Scans serde s (.error error)
  | done {s : ScanState} {scan : SpeechFirstEnvelopeScan} :
      scanRound serde s = .ok (.done scan) → Scans serde s (.ok scan)
  | again {s s' : ScanState} {result : Except ResponseValidationError SpeechFirstEnvelopeScan} :
      scanRound serde s = .ok (.again s') → Scans serde s' result → Scans serde s result

variable {value : Value} {result : Except ResponseValidationError SpeechFirstEnvelopeScan}

section Scans

variable {s s' : ScanState}

theorem length_skip_le (t : Text) : (skipJsonWhitespace t).length ≤ t.length :=
  (List.dropWhile_suffix isJsonWhitespace).length_le

/-- A member takes up at least its colon. -/
theorem ReadsMember.length_lt {field : Text} (h : ReadsMember serde s s' field value) :
    s'.rest.length < s.rest.length := by
  obtain ⟨hname, -, -, hcolon, -, -, -, -, -, hdelimiter, hnext⟩ := h
  rename_i name behindColon behind next nameLength valueLength gate delimiter
  have h₁ := length_skip_le s.rest
  have h₂ := length_skip_le (name.drop nameLength)
  have h₃ := length_skip_le behindColon
  have h₄ := length_skip_le ((skipJsonWhitespace behindColon).drop valueLength)
  rw [hname] at h₁
  rw [hcolon, List.length_drop, List.length_cons] at h₂
  rw [hdelimiter, List.length_drop, List.length_cons] at h₄
  rcases hnext with ⟨-, rfl⟩ | ⟨-, rfl⟩ <;> simp only [List.length_cons] <;> omega

/-- With enough fuel the loop is the scan. -/
theorem scanLoop_scans {fuel : Nat} (hfuel : s.rest.length < fuel) :
    Scans serde s (scanLoop serde fuel s) := by
  induction fuel generalizing s with
  | zero => exact absurd hfuel (Nat.not_lt_zero _)
  | succ fuel ih =>
    cases hround : scanRound serde s with
    | error error =>
      simp only [scanLoop, hround]
      exact .error hround
    | ok round =>
      cases round with
      | done scan =>
        simp only [scanLoop, hround]
        exact .done hround
      | again next =>
        obtain ⟨field, value, hread⟩ := scanRound_again.1 hround
        have := hread.length_lt
        simp only [scanLoop, hround]
        exact .again hround (ih (by omega))

/-- A scan that completes reports a spoken response. -/
theorem Scans.complete_spoken (h : Scans serde s result) (hresult : result = .ok scan)
    (hcomplete : scan.complete = true) : ∃ spoken, scan = ⟨some spoken, true⟩ := by
  induction h with
  | error _ => cases hresult
  | done hround =>
    cases hresult
    rcases scanRound_done hround with ⟨hfalse, -⟩ | ⟨-, -, hspoken, hscan⟩
    · rw [hfalse] at hcomplete
      cases hcomplete
    · obtain ⟨spoken, hgate⟩ := Option.isSome_iff_exists.1 hspoken
      exact ⟨spoken, by rw [hscan, hgate]⟩
  | again _ _ ih => exact ih hresult

theorem Scans.unique {result₁ result₂ : Except ResponseValidationError SpeechFirstEnvelopeScan}
    (h₁ : Scans serde s result₁) (h₂ : Scans serde s result₂) : result₁ = result₂ := by
  induction h₁ with
  | error hround | done hround =>
    cases h₂ with
    | error hother | done hother | again hother _ =>
      rw [hround] at hother
      cases hother <;> rfl
  | again hround _ ih =>
    cases h₂ with
    | error hother | done hother =>
      rw [hround] at hother
      cases hother
    | again hother hrest =>
      rw [hround] at hother
      cases hother
      exact ih hrest

end Scans

/-! ## Longer texts -/

/-- The state with more text behind it. -/
def ScanState.extend (s : ScanState) (u : Text) : ScanState := { s with rest := s.rest ++ u }

variable {n : Nat}

section Extend

variable {s s' : ScanState}

/-- A text that goes on behind `n` characters is longer than that. -/
theorem lt_length_of_skip_drop {t : Text} (h : skipJsonWhitespace (t.drop n) ≠ []) :
    n < t.length := by
  by_contra hge
  rw [List.drop_eq_nil_of_le (by omega)] at h
  exact h rfl

/-- **A member that was read is read again from a longer text.** -/
theorem ReadsMember.extend (hserde : serde.Lawful) {field : Text}
    (h : ReadsMember serde s s' field value) (u : Text) :
    ReadsMember serde (s.extend u) (s'.extend u) field value := by
  obtain ⟨hname, hopen, hfield, hcolon, hfresh, hsupported, hstart, hvalue, haccept, hdelimiter,
    hnext⟩ := h
  rename_i name behindColon behind next nameLength valueLength gate delimiter
  have hnameLength : nameLength < name.length := lt_length_of_skip_drop (by simp [hcolon])
  have hvalueLength : valueLength < (skipJsonWhitespace behindColon).length :=
    lt_length_of_skip_drop (by simp [hdelimiter])
  have hskip : skipJsonWhitespace (behindColon ++ u) = skipJsonWhitespace behindColon ++ u :=
    skip_append hstart
  refine @ReadsMember.intro serde (s.extend u) (name ++ u) field (behindColon ++ u) (behind ++ u)
    (next ++ u) value nameLength valueLength gate delimiter ?_ ?_
    (hserde.nextString_more _ u _ _ hfield hnameLength) ?_ hfresh hsupported ?_ ?_ ?_ ?_ ?_
  · rw [ScanState.extend, skip_append (by rw [hname]; exact hopen.1), hname]
  · obtain ⟨ch, rest, rfl⟩ := List.exists_cons_of_ne_nil hopen.1
    simpa using hopen.2
  · rw [List.drop_append_of_le_length hnameLength.le, skip_append (by simp [hcolon]), hcolon]
    rfl
  · simp [hskip, hstart]
  · rw [hskip]
    exact hserde.next_more _ u _ _ hvalue hvalueLength
  · rw [hskip, List.take_append_of_le_length hvalueLength.le]
    exact haccept
  · rw [hskip, List.drop_append_of_le_length hvalueLength.le, skip_append (by simp [hdelimiter]),
      hdelimiter]
    rfl
  · rcases hnext with ⟨hcomma, rfl⟩ | ⟨hbrace, rfl⟩
    · exact .inl ⟨hcomma, rfl⟩
    · exact .inr ⟨hbrace, rfl⟩

/-- A spoken response in the gate has its field among those read. -/
def ScanState.SpokenOnce (s : ScanState) : Prop :=
  s.gate.spokenResponse.isSome = true → "spoken_response".toList ∈ s.fields

theorem acceptField_spoken {field valueRaw : Text} {gate' : SpeechGate}
    (h : acceptField serde field valueRaw gate = .ok gate') :
    gate'.spokenResponse = gate.spokenResponse ∨
      (field = "spoken_response".toList ∧
        ∃ spoken, serde.spokenFromStr valueRaw = .ok spoken ∧
          gate'.spokenResponse = some spoken) := by
  unfold acceptField at h
  split_ifs at h with hschema hspoken
  · simp only [bind_eq_ok, mapError_eq_ok] at h
    obtain ⟨schema, -, h⟩ := h
    split_ifs at h
    cases h
    exact .inl rfl
  · simp only [bind_eq_ok, mapError_eq_ok, pure_eq_ok] at h
    obtain ⟨spoken, hread, rfl⟩ := h
    exact .inr ⟨hspoken, spoken, hread, rfl⟩
  · cases h
    exact .inl rfl

/-- A member keeps the spoken response that was read, or is the spoken response itself. -/
theorem ReadsMember.spoken {field : Text} {value : Value}
    (h : ReadsMember serde s s' field value) (honce : s.SpokenOnce) :
    s'.SpokenOnce ∧ (s.gate.spokenResponse.isSome = true →
      s'.gate.spokenResponse = s.gate.spokenResponse) := by
  obtain ⟨-, -, -, -, hfresh, -, -, -, haccept, -, -⟩ := h
  rcases acceptField_spoken haccept with hsame | ⟨rfl, spoken, -, hnew⟩
  · refine ⟨?_, fun _ => hsame⟩
    intro hsome
    rw [hsame] at hsome
    exact List.mem_cons_of_mem _ (honce hsome)
  · exact ⟨fun _ => List.mem_cons_self, fun hsome => absurd (honce hsome) hfresh⟩

/-- What is reported from a state on, once the spoken response was read, is that response. -/
theorem Scans.spoken_kept (h : Scans serde s result) (honce : s.SpokenOnce)
    (hread : s.gate.spokenResponse.isSome = true) {spoken : SpokenResponseV1}
    (hresult : result = .ok ⟨some spoken, complete⟩) : s.gate.spokenResponse = some spoken := by
  induction h with
  | error _ => cases hresult
  | done hround =>
    cases hresult
    exact scanRound_done_spoken hround
  | again hround _ ih =>
    obtain ⟨field, value, hmember⟩ := scanRound_again.1 hround
    obtain ⟨honce', hkept⟩ := hmember.spoken honce
    have hsame := hkept hread
    rw [← hsame]
    exact ih honce' (by rw [hsame]; exact hread) hresult

/-- **A spoken response that a scan reports is the one every scan of a longer text reports.** -/
theorem Scans.spoken_stable (hserde : serde.Lawful) {u : Text} {spoken spoken' : SpokenResponseV1}
    {complete' : Bool} (h : Scans serde s result) (hresult : result = .ok ⟨some spoken, complete⟩)
    (honce : s.SpokenOnce) (hmore : Scans serde (s.extend u) (.ok ⟨some spoken', complete'⟩)) :
    spoken = spoken' := by
  induction h with
  | error _ => cases hresult
  | @done s scan hround =>
    cases hresult
    have hgate := scanRound_done_spoken hround
    have hkept := hmore.spoken_kept honce (by simp [ScanState.extend, hgate]) rfl
    rw [ScanState.extend, hgate] at hkept
    exact Option.some.inj hkept
  | @again s next result hround _ ih =>
    obtain ⟨field, value, hmember⟩ := scanRound_again.1 hround
    have hlonger := scanRound_again.2 ⟨field, value, hmember.extend hserde u⟩
    cases hmore with
    | done hother =>
      rw [hlonger] at hother
      cases hother
    | again hother hrest =>
      rw [hlonger] at hother
      cases hother
      exact ih hresult (hmember.spoken honce).1 hrest

end Extend

/-! ## Shorter texts -/

/-- On a shorter text the same step returns, or goes on to a state that is shorter by as much. -/
def StopsOrFollows (short : Except ResponseValidationError ScanRound) (s' : ScanState) (u : Text) :
    Prop :=
  (∃ scan, short = .ok (.done scan)) ∨ ∃ next, short = .ok (.again next) ∧ s' = next.extend u

section Shorten

variable {s s' : ScanState} {field u : Text}

theorem scanDelimiter_shorten (h : scanDelimiter (s.extend u) = .ok (.again s')) :
    StopsOrFollows (scanDelimiter s) s' u := by
  obtain ⟨delimiter, behind, next, hskip, rfl, hnext⟩ := scanDelimiter_again.1 h
  cases hshort : skipJsonWhitespace s.rest with
  | nil =>
    refine .inl ⟨⟨none, false⟩, ?_⟩
    simp only [scanDelimiter, hshort]
  | cons ch rest =>
    have hlong : skipJsonWhitespace (s.rest ++ u) = ch :: (rest ++ u) := by
      rw [skip_append (by simp [hshort]), hshort, List.cons_append]
    rw [ScanState.extend, hlong] at hskip
    cases hskip
    rcases hnext with ⟨hcomma, rfl⟩ | ⟨hbrace, rfl⟩
    · exact .inr ⟨_, scanDelimiter_again.2 ⟨_, _, _, hshort, rfl, .inl ⟨hcomma, rfl⟩⟩, rfl⟩
    · exact .inr ⟨_, scanDelimiter_again.2 ⟨_, _, _, hshort, rfl, .inr ⟨hbrace, rfl⟩⟩, rfl⟩

/-- A number is accepted for no field that the gate reads. -/
theorem acceptField_number (hserde : serde.Lawful) {t part : Text} {number : Number}
    {gate' : SpeechGate} (hvalue : serde.next t = some (.ok (.number number, n)))
    (h : acceptField serde field (t.take n) gate = .ok gate') :
    acceptField serde field part gate = .ok gate := by
  unfold acceptField at h ⊢
  split_ifs at h ⊢ with hschema hspoken
  · simp only [bind_eq_ok, mapError_eq_ok] at h
    obtain ⟨schema, hread, -⟩ := h
    cases hserde.schema_typed _ _ _ _ hvalue hread
  · simp only [bind_eq_ok, mapError_eq_ok] at h
    obtain ⟨spoken, hread, -⟩ := h
    cases hserde.spoken_typed _ _ _ _ hvalue hread
  · rfl

theorem scanValue_waits
    (h : parseCompleteJsonValue serde.next (skipJsonWhitespace s.rest) = .ok none) :
    scanValue serde field s = .ok (.done (speechFirstScanProgress s.gate)) := by
  simp only [scanValue, h]
  rfl

theorem scanValue_reads (hstart : skipJsonWhitespace s.rest ≠ [])
    (hvalue : serde.next (skipJsonWhitespace s.rest) = some (.ok (value, n)))
    (haccept : acceptField serde field ((skipJsonWhitespace s.rest).take n) s.gate = .ok gate) :
    scanValue serde field s =
      scanDelimiter ⟨(skipJsonWhitespace s.rest).drop n, s.fields, gate⟩ := by
  simp only [scanValue, parseComplete_eq_some.2 ⟨hstart, hvalue⟩, bind, Except.bind, haccept]

theorem scanValue_shorten (hserde : serde.Lawful)
    (h : scanValue serde field (s.extend u) = .ok (.again s')) :
    StopsOrFollows (scanValue serde field s) s' u := by
  obtain ⟨value, n, gate, -, hvalue, haccept, hdelimiter⟩ := scanValue_again.1 h
  by_cases hstart : skipJsonWhitespace s.rest = []
  · refine .inl ⟨_, scanValue_waits ?_⟩
    rw [hstart]
    exact parseComplete_nil
  · have hlong : skipJsonWhitespace (s.extend u).rest = skipJsonWhitespace s.rest ++ u :=
      skip_append hstart
    rw [hlong] at hvalue haccept hdelimiter
    by_cases hlength : n ≤ (skipJsonWhitespace s.rest).length
    · rw [List.take_append_of_le_length hlength] at haccept
      rw [List.drop_append_of_le_length hlength] at hdelimiter
      rw [scanValue_reads hstart (hserde.next_whole _ _ _ _ hvalue hlength) haccept]
      exact scanDelimiter_shorten
        (s := ⟨(skipJsonWhitespace s.rest).drop n, s.fields, gate⟩) hdelimiter
    · rcases hserde.next_part _ _ _ _ hstart hvalue (by omega) with hwaits |
        ⟨part, whole, hpart, rfl⟩
      · exact .inl ⟨_, scanValue_waits (parseComplete_of_waits hwaits)⟩
      · -- The text ends inside a number, and the digits so far are a number.
        rw [scanValue_reads hstart hpart (acceptField_number hserde hvalue haccept),
          List.drop_length]
        exact .inl ⟨⟨none, false⟩, rfl⟩

theorem scanField_shorten (hserde : serde.Lawful)
    (h : scanField serde field (s.extend u) = .ok (.again s')) :
    StopsOrFollows (scanField serde field s) s' u := by
  obtain ⟨behindColon, hcolon, hfresh, hsupported, hvalue⟩ := scanField_again.1 h
  cases hshort : skipJsonWhitespace s.rest with
  | nil =>
    refine .inl ⟨speechFirstScanProgress s.gate, ?_⟩
    simp only [scanField, hshort]
  | cons ch rest =>
    have hlong : skipJsonWhitespace (s.rest ++ u) = ch :: (rest ++ u) := by
      rw [skip_append (by simp [hshort]), hshort, List.cons_append]
    rw [ScanState.extend, hlong] at hcolon
    cases hcolon
    have heq : scanField serde field s =
        scanValue serde field ⟨rest, field :: s.fields, s.gate⟩ := by
      have hnew : field ∉ s.fields := hfresh
      simp [scanField, hshort, hnew, hsupported]
    rw [heq]
    exact scanValue_shorten hserde (s := ⟨rest, field :: s.fields, s.gate⟩) hvalue

/-- **A round on a shorter text waits, or reads the same member.** -/
theorem scanRound_shorten (hserde : serde.Lawful)
    (h : scanRound serde (s.extend u) = .ok (.again s')) :
    StopsOrFollows (scanRound serde s) s' u := by
  cases hshort : skipJsonWhitespace s.rest with
  | nil =>
    refine .inl ⟨speechFirstScanProgress s.gate, ?_⟩
    simp only [scanRound, hshort]
  | cons ch rest =>
    have hlong : skipJsonWhitespace (s.extend u).rest = ch :: rest ++ u := by
      rw [ScanState.extend, skip_append (by simp [hshort]), hshort]
    unfold scanRound at h ⊢
    simp only [hshort]
    simp only [hlong, List.cons_append] at h
    split_ifs at h ⊢ with hbrace
    · obtain ⟨scan, -, hdone⟩ := map_eq_ok.1 h
      cases hdone
    · obtain ⟨item, hitem, h⟩ := bind_eq_ok.1 h
      cases item with
      | none => cases h
      | some item =>
        obtain ⟨-, hname⟩ := parseComplete_eq_some.1 hitem
        rw [← List.cons_append] at hname
        by_cases hlength : item.2 ≤ (ch :: rest).length
        · have hread := parseComplete_eq_some.2
            ⟨List.cons_ne_nil ch rest, hserde.nextString_whole _ _ _ _ hname hlength⟩
          rw [hread]
          dsimp only at h
          rw [← List.cons_append, List.drop_append_of_le_length hlength] at h
          exact scanField_shorten hserde (s := ⟨(ch :: rest).drop item.2, s.fields, s.gate⟩) h
        · have hwaits := hserde.nextString_part _ _ _ _ (List.cons_ne_nil ch rest) hname (by omega)
          rw [parseComplete_of_waits hwaits]
          exact .inl ⟨_, rfl⟩

/-- The round that closes the object closes it on a shorter text, or waits. -/
theorem scanRound_closes_shorten (h : Closes (s.extend u) scan) :
    ∃ scan', scanRound serde s = .ok (.done scan') := by
  obtain ⟨⟨tail, hbrace, htail⟩, hschema, hspoken, -⟩ := h
  cases hshort : skipJsonWhitespace s.rest with
  | nil =>
    refine ⟨speechFirstScanProgress s.gate, ?_⟩
    simp only [scanRound, hshort]
  | cons ch rest =>
    have hlong : skipJsonWhitespace (s.rest ++ u) = ch :: (rest ++ u) := by
      rw [skip_append (by simp [hshort]), hshort, List.cons_append]
    rw [ScanState.extend, hlong] at hbrace
    cases hbrace
    exact ⟨_, scanRound_of_closes ⟨⟨rest, hshort, skip_append_nil htail⟩, hschema, hspoken, rfl⟩⟩

/-- **When the scan of a text completes, the scan of each of its prefixes succeeds.** -/
theorem Scans.shorten (hserde : serde.Lawful) {long : ScanState} (h : Scans serde long result)
    (hresult : result = .ok scan) (hcomplete : scan.complete = true) (hlong : long = s.extend u) :
    ∃ scan', Scans serde s (.ok scan') := by
  induction h generalizing s with
  | error _ => cases hresult
  | done hround =>
    cases hresult
    subst hlong
    rcases scanRound_done hround with ⟨hfalse, -⟩ | hcloses
    · rw [hfalse] at hcomplete
      cases hcomplete
    · obtain ⟨scan', hdone⟩ := scanRound_closes_shorten hcloses
      exact ⟨scan', .done hdone⟩
  | again hround _ ih =>
    subst hlong
    rcases scanRound_shorten hserde hround with ⟨scan', hdone⟩ | ⟨next, hagain, hnext⟩
    · exact ⟨scan', .done hdone⟩
    · obtain ⟨scan', hrest⟩ := ih hresult hnext
      exact ⟨scan', .again hagain hrest⟩

end Shorten

/-! ## The members of a complete text -/

section Members

variable {s s' : ScanState}

theorem ReadsMember.readMember_eq {field : Text} (h : ReadsMember serde s s' field value) :
    readMember serde s.rest = some ((field, value), s'.rest) := by
  obtain ⟨hname, -, hfield, hcolon, -, -, -, hvalue, -, hdelimiter, hnext⟩ := h
  subst hname
  rcases hnext with ⟨rfl, rfl⟩ | ⟨rfl, rfl⟩ <;>
    simp [readMember, hfield, hcolon, hvalue, hdelimiter]

/-- A complete scan reads the members of the object, each name once, and the spoken response that it
reports is the value of its field. -/
theorem Scans.readMembers (hserde : serde.Lawful)
    {result : Except ResponseValidationError SpeechFirstEnvelopeScan} (h : Scans serde s result)
    {spoken : SpokenResponseV1} (hresult : result = .ok ⟨some spoken, true⟩) {fuel : Nat}
    (hfuel : s.rest.length < fuel) :
    ∃ members, readMembers serde fuel s.rest = some members ∧ (members.map Prod.fst).Nodup ∧
      (∀ key ∈ members.map Prod.fst, key ∉ s.fields) ∧
      (s.gate.spokenResponse = some spoken ∨
        ∃ value, members.lookup "spoken_response".toList = some value ∧
          decodeSpoken value = .ok spoken) := by
  induction h generalizing fuel with
  | error _ => cases hresult
  | @done s scan hround =>
    cases hresult
    obtain ⟨fuel, rfl⟩ := Nat.exists_eq_succ_of_ne_zero (Nat.ne_of_gt (Nat.zero_lt_of_lt hfuel))
    rcases scanRound_done hround with ⟨hfalse, -⟩ | ⟨⟨tail, hbrace, htail⟩, -, -, -⟩
    · cases hfalse
    · refine ⟨[], ?_, List.nodup_nil, by simp, .inl (scanRound_done_spoken hround)⟩
      simp [Response.readMembers, hbrace, htail]
  | @again s next result hround _ ih =>
    obtain ⟨fuel, rfl⟩ := Nat.exists_eq_succ_of_ne_zero (Nat.ne_of_gt (Nat.zero_lt_of_lt hfuel))
    obtain ⟨field, value, hmember⟩ := scanRound_again.1 hround
    have hshorter : next.rest.length < fuel := by
      have := hmember.length_lt
      omega
    obtain ⟨members, hread, hnodup, hnew, hspoken⟩ := ih hresult hshorter
    have hfirst := hmember.readMember_eq
    obtain ⟨hname, hopen, -, -, hfresh, -, -, hvalue, haccept, -, -⟩ := hmember
    obtain ⟨ch, rest, rfl⟩ := List.exists_cons_of_ne_nil hopen.1
    have hbrace : ch ≠ '}' := by simpa using hopen.2
    have hfield : field ∉ members.map Prod.fst := fun hmem => hnew field hmem List.mem_cons_self
    refine ⟨(field, value) :: members, ?_, ?_, ?_, ?_⟩
    · simp [Response.readMembers, hname, hbrace, hfirst, hread]
    · exact List.nodup_cons.2 ⟨hfield, hnodup⟩
    · intro key hkey
      rcases List.mem_cons.1 hkey with rfl | hkey
      · exact hfresh
      · exact fun hold => hnew key hkey (List.mem_cons_of_mem _ hold)
    · rcases hspoken with hgate | ⟨other, hlookup, hdecode⟩
      · rcases acceptField_spoken haccept with hsame | ⟨rfl, read, hread, hread'⟩
        · exact .inl (hsame.symm.trans hgate)
        · rw [hread'] at hgate
          cases hgate
          refine .inr ⟨value, by simp, ?_⟩
          exact hserde.spoken_typed _ _ _ _ hvalue hread
      · refine .inr ⟨other, ?_, hdecode⟩
        have hne : ("spoken_response".toList == field) = false := by
          rw [beq_eq_false_iff_ne]
          rintro rfl
          obtain ⟨before, after, rfl, -⟩ := List.lookup_eq_some_iff.1 hlookup
          exact hfield (by simp)
        rw [List.lookup_cons, hne]
        exact hlookup

end Members

/-! ## Scans of a text -/

section Text

variable {raw t u : Text}

theorem scan_object {rest : Text} (h : skipJsonWhitespace raw = '{' :: rest) :
    Scans serde { rest } (scanSpeechFirstEnvelope serde raw) := by
  simp only [scanSpeechFirstEnvelope, h]
  exact scanLoop_scans (Nat.lt_succ_self _)

/-- A scan that succeeds has seen nothing yet, or the opening brace. -/
theorem scan_eq_ok (h : scanSpeechFirstEnvelope serde raw = .ok scan) :
    (skipJsonWhitespace raw = [] ∧ scan = ⟨none, false⟩) ∨
      ∃ rest, skipJsonWhitespace raw = '{' :: rest ∧ Scans serde { rest } (.ok scan) := by
  cases hskip : skipJsonWhitespace raw with
  | nil =>
    simp only [scanSpeechFirstEnvelope, hskip] at h
    cases h
    exact .inl ⟨rfl, rfl⟩
  | cons ch rest =>
    by_cases hbrace : ch = '{'
    · subst hbrace
      exact .inr ⟨rest, rfl, h ▸ scan_object hskip⟩
    · simp only [scanSpeechFirstEnvelope, hskip, if_pos hbrace] at h
      cases h

theorem scan_spoken_stable (hserde : serde.Lawful) {spoken spoken' : SpokenResponseV1}
    {complete' : Bool} (h : scanSpeechFirstEnvelope serde t = .ok ⟨some spoken, complete⟩)
    (hmore : scanSpeechFirstEnvelope serde (t ++ u) = .ok ⟨some spoken', complete'⟩) :
    spoken = spoken' := by
  rcases scan_eq_ok h with ⟨-, hnone⟩ | ⟨rest, hbrace, hscans⟩
  · cases hnone
  · have hlong : skipJsonWhitespace (t ++ u) = '{' :: (rest ++ u) := by
      rw [skip_append (by simp [hbrace]), hbrace, List.cons_append]
    have hscans' : Scans serde { rest := rest ++ u } (scanSpeechFirstEnvelope serde (t ++ u)) :=
      scan_object hlong
    rw [hmore] at hscans'
    exact hscans.spoken_stable hserde rfl (by simp [ScanState.SpokenOnce]) hscans'

theorem scan_prefix_ok (hserde : serde.Lawful)
    (h : scanSpeechFirstEnvelope serde (t ++ u) = .ok scan) (hcomplete : scan.complete = true) :
    ∃ scan', scanSpeechFirstEnvelope serde t = .ok scan' := by
  cases hskip : skipJsonWhitespace t with
  | nil => exact ⟨⟨none, false⟩, by simp only [scanSpeechFirstEnvelope, hskip]⟩
  | cons ch rest =>
    have hlong : skipJsonWhitespace (t ++ u) = ch :: (rest ++ u) := by
      rw [skip_append (by simp [hskip]), hskip, List.cons_append]
    rcases scan_eq_ok h with ⟨hnil, -⟩ | ⟨rest', hbrace, hscans⟩
    · rw [hlong] at hnil
      cases hnil
    · rw [hlong] at hbrace
      cases hbrace
      obtain ⟨scan', hshort⟩ := hscans.shorten hserde rfl hcomplete (s := { rest }) rfl
      exact ⟨scan', (scan_object hskip).unique hshort⟩

/-- A complete scan reports a spoken response. -/
theorem scan_complete_spoken (h : scanSpeechFirstEnvelope serde raw = .ok scan)
    (hcomplete : scan.complete = true) : ∃ spoken, scan = ⟨some spoken, true⟩ := by
  rcases scan_eq_ok h with ⟨-, rfl⟩ | ⟨rest, -, hscans⟩
  · cases hcomplete
  · exact hscans.complete_spoken rfl hcomplete

/-- The spoken response of a complete scan is the one strict decoding finds. -/
theorem scan_strict_spoken (hserde : serde.Lawful) {spoken : SpokenResponseV1}
    {policy : ResponseValidationPolicy} {response : NpcResponseEnvelopeV1}
    (h : scanSpeechFirstEnvelope serde raw = .ok ⟨some spoken, true⟩)
    (hstrict : NpcResponseEnvelopeV1.fromJsonStrict serde raw policy = .ok response) :
    response.spokenResponse = spoken := by
  rcases scan_eq_ok h with ⟨-, hnone⟩ | ⟨rest, hbrace, hscans⟩
  · cases hnone
  · obtain ⟨members, hread, hnodup, -, hgate | ⟨value, hlookup, hdecode⟩⟩ :=
      hscans.readMembers hserde rfl (Nat.lt_succ_self _)
    · cases hgate
    · obtain ⟨-, object, hvalue, hfields, henvelope, -⟩ := fromJsonStrict_eq_ok.1 hstrict
      have hobject : readObject serde raw = some members := by
        simp only [readObject, hbrace, if_true]
        exact hread
      obtain ⟨object', heq, hsame⟩ := hserde.object_members _ _ _ hvalue hobject hnodup
      cases heq
      have hspoken := ((decodeEnvelope_eq_ok hfields).1 henvelope).2.1
      simp only [Fields.required, Fields.get, hsame, hlookup, hdecode] at hspoken
      exact (Except.ok.inj hspoken).symm

end Text

end NpcRuntime.Response
