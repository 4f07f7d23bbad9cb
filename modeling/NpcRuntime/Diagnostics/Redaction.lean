import NpcRuntime.Diagnostics.Events
import NpcRuntime.Lib.Regex

/-!
# Redaction

`diagnostics/src/redaction.rs`: eleven patterns, each applied once and in order to a text, and the
walk over a JSON value that drops what a sensitive name denotes. Under `(?i)` a letter also stands
for what folds to it, which outside ASCII are the long s and the Kelvin sign.
-/

namespace NpcRuntime.Diagnostics

open Text Json Regex

inductive RedactionKind where
  | bearerToken | apiCredential | providerCredential | jwt | privateKey | urlCredential
  | sensitiveField | email | ipAddress | userPath
deriving DecidableEq

structure RedactionFinding where
  kind : RedactionKind
  count : Nat
deriving DecidableEq

/-! ## Patterns -/

/-- A letter of either case, under Unicode case folding. -/
def foldsTo (letter c : Char) : Bool :=
  c.toLower = letter || (letter = 's' && c.toNat = 0x17F) || (letter = 'k' && c.toNat = 0x212A)

/-- `(?i)[a-z]`. -/
def anyLetter (c : Char) : Bool := c.isAlpha || c.toNat = 0x17F || c.toNat = 0x212A

/-- `(?i)` over a text of lowercase letters and other characters. -/
def ignoringCase (t : String) : Regex := sequence (t.toList.map fun letter => .set (foldsTo letter))

def word (t : String) : Regex := literal t.toList

/-- `[a-zA-Z0-9_-]`. -/
def tokenChar (c : Char) : Bool := c.isAlphanum || c ∈ ['_', '-']

def isHexDigit (c : Char) : Bool := c.isDigit || c.toLower ∈ ['a', 'b', 'c', 'd', 'e', 'f']

/-- `[_-]?`. -/
def optionalDash : Regex := optional (.set fun c => c ∈ ['_', '-'])

def privateKeyMark (side : String) : Regex :=
  sequence [word ("-----" ++ side ++ " "), optional (choice [word "RSA ", word "EC ", word "OPENSSH "]),
    word "PRIVATE KEY-----"]

def privateKeyPattern : Regex :=
  sequence [privateKeyMark "BEGIN", .many (fun _ => true) 0 true, privateKeyMark "END"]

def bearerPattern : Regex :=
  sequence [ignoringCase "bearer", .many isWhitespace 1 false,
    .many (fun c => anyLetter c || c.isDigit || c ∈ ['.', '_', '~', '+', '/', '=', '-']) 8 false]

def jwtPattern : Regex :=
  sequence [.boundary, word "eyJ", .many tokenChar 8 false, word ".", .many tokenChar 8 false,
    word ".", .many tokenChar 8 false, .boundary]

def providerCredentialPattern : Regex :=
  sequence [.boundary,
    choice [
      sequence [word "sk-", optional (word "proj-"), .many tokenChar 12 false],
      sequence [word "nvapi-", .many tokenChar 12 false],
      sequence [word "AIza", .many tokenChar 20 false],
      sequence [word "gh", .set fun c => c ∈ ['p', 'o', 'u', 's', 'r'], word "_",
        .many Char.isAlphanum 20 false],
      sequence [word "xox", .set fun c => c ∈ ['b', 'a', 'p', 'r', 's'], word "-",
        .many (fun c => c.isAlphanum || c = '-') 10 false],
      sequence [word "AKIA", between (.set fun c => c.isUpper || c.isDigit) 16 0]],
    .boundary]

def urlUserPattern : Regex :=
  sequence [.boundary,
    .group (sequence [ignoringCase "http", optional (ignoringCase "s"), word "://"]),
    .many (fun c => !isWhitespace c && c ∉ ['/', '@', ':']) 1 false, word ":",
    .many (fun c => !isWhitespace c && c ∉ ['/', '@']) 1 false, word "@"]

def urlQueryPattern : Regex :=
  sequence [
    .group (sequence [.set fun c => c ∈ ['?', '&'],
      choice [sequence [ignoringCase "api", optionalDash, ignoringCase "key"],
        sequence [ignoringCase "access", optionalDash, ignoringCase "token"],
        ignoringCase "token", ignoringCase "secret", ignoringCase "password"],
      word "="]),
    .many (fun c => !isWhitespace c && c ∉ ['&', '#']) 1 false]

def apiCredentialPattern : Regex :=
  sequence [
    .group (choice [ignoringCase "authorization",
      sequence [ignoringCase "api", optionalDash, ignoringCase "key"],
      sequence [ignoringCase "access", optionalDash, ignoringCase "key"],
      sequence [ignoringCase "client", optionalDash, ignoringCase "secret"],
      ignoringCase "secret", ignoringCase "password", ignoringCase "passwd", ignoringCase "token",
      ignoringCase "credential"]),
    .many isWhitespace 0 false, .set fun c => c ∈ [':', '='], .many isWhitespace 0 false,
    optional (.set fun c => c ∈ ['"', '\'']),
    .many (fun c => !isWhitespace c && c ∉ [',', ';', '"', '\'', '\x7d', '<']) 4 false,
    optional (.set fun c => c ∈ ['"', '\''])]

def emailPattern : Regex :=
  sequence [.boundary,
    .many (fun c => anyLetter c || c.isDigit || c ∈ ['.', '_', '%', '+', '-']) 1 false, word "@",
    .many (fun c => anyLetter c || c.isDigit || c ∈ ['.', '-']) 1 false, word ".",
    .many anyLetter 2 false, .boundary]

def ipV4Pattern (tables : UnicodeTables) : Regex :=
  let number := between (.set tables.digit) 1 2
  sequence [.boundary, between (.seq number (word ".")) 3 0, number, .boundary]

def ipV6Pattern : Regex :=
  let number := between (.set isHexDigit) 1 3
  sequence [.boundary, between (.seq number (word ":")) 2 5, number, .boundary]

def userPathPattern : Regex :=
  let name := Regex.many (fun c => !isWhitespace c && c ≠ '\\') 1 false
  choice [
    sequence [.boundary, .set anyLetter, word ":\\", ignoringCase "users", word "\\", name],
    sequence [word "/", choice [ignoringCase "home", ignoringCase "users"], word "/",
      .many (fun c => !isWhitespace c && c ≠ '/') 1 false],
    sequence [word "\\\\", name, word "\\", ignoringCase "users", word "\\", name]]

structure Pattern where
  kind : RedactionKind
  regex : Regex
  replacement : Replacement

def patterns (tables : UnicodeTables) : List Pattern :=
  [⟨.privateKey, privateKeyPattern, ⟨false, "<REDACTED_PRIVATE_KEY>".toList⟩⟩,
    ⟨.bearerToken, bearerPattern, ⟨false, "Bearer <REDACTED>".toList⟩⟩,
    ⟨.jwt, jwtPattern, ⟨false, "<REDACTED_JWT>".toList⟩⟩,
    ⟨.providerCredential, providerCredentialPattern,
      ⟨false, "<REDACTED_PROVIDER_CREDENTIAL>".toList⟩⟩,
    ⟨.urlCredential, urlUserPattern, ⟨true, "<REDACTED>@".toList⟩⟩,
    ⟨.urlCredential, urlQueryPattern, ⟨true, "<REDACTED>".toList⟩⟩,
    ⟨.apiCredential, apiCredentialPattern, ⟨true, "=<REDACTED>".toList⟩⟩,
    ⟨.email, emailPattern, ⟨false, "<REDACTED_EMAIL>".toList⟩⟩,
    ⟨.ipAddress, ipV4Pattern tables, ⟨false, "<REDACTED_IP>".toList⟩⟩,
    ⟨.ipAddress, ipV6Pattern, ⟨false, "<REDACTED_IP>".toList⟩⟩,
    ⟨.userPath, userPathPattern, ⟨false, "<REDACTED_USER_PATH>".toList⟩⟩]

/-! ## Texts -/

section Redactor

variable (tables : UnicodeTables)

/-- One round of the loop of `redact`. -/
def redactStep (state : Text × List RedactionFinding) (pattern : Pattern) :
    Text × List RedactionFinding :=
  let count := (findIter tables pattern.regex state.1).length
  if count > 0 then
    (replaceAll tables pattern.regex pattern.replacement state.1,
      state.2 ++ [⟨pattern.kind, count⟩])
  else state

def redact (input : Text) : Text × List RedactionFinding :=
  (patterns tables).foldl (redactStep tables) (input, [])

def inspect (input : Text) : List RedactionFinding := (redact tables input).2

/-! ## Values -/

def sensitiveFieldNames : List String :=
  ["authorization", "api_key", "apikey", "access_key", "secret", "password", "passwd", "token",
    "credential", "private_key", "client_secret", "cookie", "set_cookie", "prompt",
    "response_text", "transcript", "audio_bytes", "frame_bytes", "screenshot", "webcam_frame"]

/-- The ASCII letters and digits of a name. -/
def compact (t : Text) : Text := t.filter Char.isAlphanum

def isSensitiveFieldName (key : Text) : Bool :=
  let normalized := (toAsciiLowercase key).map fun c => if c ∈ ['-', ' '] then '_' else c
  sensitiveFieldNames.any fun sensitive =>
    normalized = sensitive.toList || ('_' :: sensitive.toList).isSuffixOf normalized ||
      (compact sensitive.toList).isSuffixOf (compact normalized)

def redactedField : Text := "<REDACTED_FIELD>".toList

mutual

/-- `redact_json_node`: the value that is left, and the findings. -/
def redactJsonNode : Value → Value × List RedactionFinding
  | .object members =>
    let redacted := redactJsonMembers members
    (.object redacted.1, redacted.2)
  | .array items =>
    let redacted := redactJsonItems items
    (.array redacted.1, redacted.2)
  | .string text =>
    let redacted := redact tables text
    (.string redacted.1, redacted.2)
  | .null => (.null, [])
  | .bool b => (.bool b, [])
  | .number n => (.number n, [])

def redactJsonItems : List Value → List Value × List RedactionFinding
  | [] => ([], [])
  | item :: items =>
    let redacted := redactJsonNode item
    let rest := redactJsonItems items
    (redacted.1 :: rest.1, redacted.2 ++ rest.2)

def redactJsonMembers : List (Text × Value) → List (Text × Value) × List RedactionFinding
  | [] => ([], [])
  | (key, child) :: members =>
    let rest := redactJsonMembers members
    if isSensitiveFieldName key then
      ((key, .string redactedField) :: rest.1, ⟨.sensitiveField, 1⟩ :: rest.2)
    else
      let redacted := redactJsonNode child
      ((key, redacted.1) :: rest.1, redacted.2 ++ rest.2)

end

/-- The kinds in their order. -/
def allRedactionKinds : List RedactionKind :=
  [.bearerToken, .apiCredential, .providerCredential, .jwt, .privateKey, .urlCredential,
    .sensitiveField, .email, .ipAddress, .userPath]

def consolidate (findings : List RedactionFinding) : List RedactionFinding :=
  allRedactionKinds.filterMap fun kind =>
    let found := findings.filter fun finding => finding.kind = kind
    if found = [] then none else some ⟨kind, (found.map RedactionFinding.count).sum⟩

def redactJsonValue (input : Value) : Value × List RedactionFinding :=
  let redacted := redactJsonNode tables input
  (redacted.1, consolidate redacted.2)

end Redactor

end NpcRuntime.Diagnostics
