import NpcRuntime.Response.Decode

/-!
# The speech-first scanner

`scan_speech_first_envelope` of `runtime-core/src/structured_response.rs`: a second reader of the
envelope, run on everything that has arrived after every delta. It walks over the top-level members,
has `serde_json` find the end of each key and value, and opens the speech gate once the schema
version and the spoken response are both complete.

The source keeps a byte position into the text; here it is the text from that position on. One round
of the loop reads one member (`scanRound`).
-/

namespace NpcRuntime.Response

open Text Json

structure SpeechFirstEnvelopeScan where
  spokenResponse : Option SpokenResponseV1
  complete : Bool
deriving DecidableEq

/-- The two variables of the scanning loop that the speech gate waits for. -/
structure SpeechGate where
  schemaVersionValidated : Bool := false
  spokenResponse : Option SpokenResponseV1 := none
deriving DecidableEq

/-- The variables of the scanning loop. -/
structure ScanState where
  rest : Text
  fields : List Text := []
  gate : SpeechGate := {}
deriving DecidableEq

def isJsonWhitespace (ch : Char) : Bool := ch == ' ' || ch == '\n' || ch == '\r' || ch == '\t'

def skipJsonWhitespace (rest : Text) : Text := rest.dropWhile isJsonWhitespace

/-- The result of `next` on a text that may go on: the end of the text is a wait, not a fault. -/
def parseCompleteJsonValue {α : Type} (next : Text → Option (Except Json.Error (α × Nat)))
    (rest : Text) : Except ResponseValidationError (Option (α × Nat)) :=
  if rest = [] then .ok none
  else
    match next rest with
    | some (.ok item) => .ok (some item)
    | some (.error error) => if error.isEof then .ok none else .error (malformed error)
    | none => .ok none

def scanFault (message : String) : ResponseValidationError :=
  .malformedProviderOutput (.message message)

def speechFirstScanProgress (gate : SpeechGate) : SpeechFirstEnvelopeScan where
  spokenResponse := if gate.schemaVersionValidated then gate.spokenResponse else none
  complete := false

/-- The end of the object, behind its brace. -/
def scanClose (s : ScanState) : Except ResponseValidationError SpeechFirstEnvelopeScan :=
  if skipJsonWhitespace s.rest ≠ [] then
    .error (scanFault "speech-first response has trailing provider output")
  else if !s.gate.schemaVersionValidated || s.gate.spokenResponse.isNone then
    .error (scanFault "speech-first response omitted a required field")
  else .ok { spokenResponse := s.gate.spokenResponse, complete := true }

/-- What the value of a field does to the gate. -/
def acceptField (serde : SerdeJson) (field valueRaw : Text) (gate : SpeechGate) :
    Except ResponseValidationError SpeechGate :=
  if field = "schema_version".toList then do
    let schema ← (serde.schemaFromStr valueRaw).mapError malformed
    if schema ≠ .v1 then .error (scanFault "unsupported speech-first schema version")
    else .ok { gate with schemaVersionValidated := true }
  else if field = "spoken_response".toList then do
    let spoken ← (serde.spokenFromStr valueRaw).mapError malformed
    return { gate with spokenResponse := some spoken }
  else .ok gate

/-- A round of the loop returns from the scan, or goes on with the next member. -/
inductive ScanRound where
  | done (scan : SpeechFirstEnvelopeScan)
  | again (s : ScanState)
deriving DecidableEq

/-- Behind a value: a comma or the closing brace proves where it ends. -/
def scanDelimiter (s : ScanState) : Except ResponseValidationError ScanRound :=
  match skipJsonWhitespace s.rest with
  | [] => .ok (.done { spokenResponse := none, complete := false })
  | ch :: rest =>
    if ch = ',' then .ok (.again { s with rest })
    else if ch = '}' then .ok (.again { s with rest := ch :: rest })
    else .error (scanFault "speech-first response fields require a comma or object terminator")

/-- Behind the colon of a field. -/
def scanValue (serde : SerdeJson) (field : Text) (s : ScanState) :
    Except ResponseValidationError ScanRound := do
  let rest := skipJsonWhitespace s.rest
  match ← parseCompleteJsonValue serde.next rest with
  | none => return .done (speechFirstScanProgress s.gate)
  | some (_, length) =>
    let gate ← acceptField serde field (rest.take length) s.gate
    scanDelimiter { s with rest := rest.drop length, gate }

/-- Behind the name of a field. -/
def scanField (serde : SerdeJson) (field : Text) (s : ScanState) :
    Except ResponseValidationError ScanRound :=
  match skipJsonWhitespace s.rest with
  | [] => .ok (.done (speechFirstScanProgress s.gate))
  | ch :: rest =>
    if ch ≠ ':' then .error (scanFault "speech-first response field is missing its colon")
    else if s.fields.contains field then .error (.malformedProviderOutput (.duplicateField field))
    else if !topLevelFields.any (·.toList == field) then .error (.unsupportedField field)
    else scanValue serde field { s with rest, fields := field :: s.fields }

def scanRound (serde : SerdeJson) (s : ScanState) : Except ResponseValidationError ScanRound :=
  match skipJsonWhitespace s.rest with
  | [] => .ok (.done (speechFirstScanProgress s.gate))
  | ch :: rest =>
    if ch = '}' then (scanClose { s with rest }).map .done
    else do
      match ← parseCompleteJsonValue serde.nextString (ch :: rest) with
      | none => return .done (speechFirstScanProgress s.gate)
      | some (field, length) => scanField serde field { s with rest := (ch :: rest).drop length }

/-- The loop. A round that goes on has read a colon, so the fuel, the number of characters, never
runs out (`scanLoop_fuel`). -/
def scanLoop (serde : SerdeJson) : Nat → ScanState →
    Except ResponseValidationError SpeechFirstEnvelopeScan
  | 0, s => .ok (speechFirstScanProgress s.gate)
  | fuel + 1, s => do
    match ← scanRound serde s with
    | .done scan => return scan
    | .again s => scanLoop serde fuel s

def scanSpeechFirstEnvelope (serde : SerdeJson) (raw : Text) :
    Except ResponseValidationError SpeechFirstEnvelopeScan :=
  match skipJsonWhitespace raw with
  | [] => .ok { spokenResponse := none, complete := false }
  | ch :: rest =>
    if ch ≠ '{' then
      .error (scanFault "speech-first response must start with a JSON object")
    else scanLoop serde (rest.length + 1) { rest }

end NpcRuntime.Response
