import Mathlib.Data.List.Infix
import NpcRuntime.Lib.Result
import NpcRuntime.Lib.Text

/-!
# Identifiers and suggested actions

`diagnostics/src/check.rs`: the closed vocabulary of a diagnosis and the checks of its parts.
-/

namespace NpcRuntime.Diagnostics

open Text

/-- `str::to_ascii_lowercase`. -/
def toAsciiLowercase (t : Text) : Text := t.map Char.toLower

/-- A byte of an identifier. -/
def identifierChar (c : Char) : Bool := c.isAlphanum || c ∈ ['.', '_', '-', '/', ':']

def isIdentifier (value : Text) (maxLen : Nat) : Bool :=
  !isBlank value && utf8Len value ≤ maxLen && value.all identifierChar

def isActionTarget (value : Text) : Bool :=
  !isBlank value && utf8Len value ≤ 128 && value.all fun c => c.isAlphanum || c ∈ ['.', '_', '-']

def forbiddenInLabels : List String :=
  ["http://", "https://", "powershell", "cmd.exe", ".exe", "javascript:", "file://", "\\\\"]

def isSafeActionLabel (value : Text) : Bool :=
  if isBlank value || utf8Len value > 240 || value.any isControl then false
  else !forbiddenInLabels.any fun forbidden => forbidden.toList <:+: toAsciiLowercase value

inductive SuggestedActionKind where
  | retryCheck | restartComponent | recheckPermissions | openSettingsSection | openBundledHelp
  | selectAlternativeProvider | reduceLocalModelLoad | disableOptionalFeature
deriving DecidableEq

structure SuggestedAction where
  actionId : Text
  kind : SuggestedActionKind
  label : Text
  targetId : Option Text
  requiresConfirmation : Bool
deriving DecidableEq

def maxSuggestedActions : Nat := 8

def SuggestedAction.validate (action : SuggestedAction) : Except String Unit :=
  if !isIdentifier action.actionId 128 || !isSafeActionLabel action.label ||
      action.targetId.any fun value => !isActionTarget value then
    .error "suggested action is unsafe or exceeds its bounds"
  else .ok ()

end NpcRuntime.Diagnostics
