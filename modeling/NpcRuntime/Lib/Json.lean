import Mathlib.Data.Int.Log
import Mathlib.Data.Rat.Floor
import NpcRuntime.Lib.Text

/-!
# JSON values and typed decoding

A parsed JSON document (`Value`) and the decoders that `serde` derives for plain data: strings,
numbers, sequences, maps, optional values, enumerations of unit variants, and structs that deny
unknown fields. A struct may be given as an object, by field name, or as an array, by position.

An object is the list of its members in iteration order; its keys are distinct because it comes
out of a map. The parser from text to values is not defined here.
-/

namespace NpcRuntime.Json

/-- A parsed number: a `u64`, a negative `i64`, or a finite `f64` by its exact value. -/
inductive Number where
  | posInt (n : Nat)
  | negInt (n : Nat)
  | float (q : ℚ)
deriving DecidableEq

inductive Value where
  | null
  | bool (b : Bool)
  | number (n : Number)
  | string (s : Text)
  | array (items : List Value)
  | object (members : List (Text × Value))

/-- The reasons for which decoding fails. -/
inductive Error where
  | malformed (message : String)
  | eof (message : String)
  | invalidType
  | invalidValue
  | invalidLength (n : Nat)
  | missingField (name : String)
  | unknownField (name : Text)
  | unknownVariant (name : Text)
deriving DecidableEq

/-- `Error::is_eof`. -/
def Error.isEof : Error → Bool
  | .eof _ => true
  | _ => false

/-! ## Equality -/

mutual

def Value.decEq : (a b : Value) → Decidable (a = b)
  | .null, .null => isTrue rfl
  | .bool a, .bool b => decidable_of_iff (a = b) (by simp)
  | .number a, .number b => decidable_of_iff (a = b) (by simp)
  | .string a, .string b => decidable_of_iff (a = b) (by simp)
  | .array a, .array b => @decidable_of_iff _ (a = b) (by simp) (Value.decEqItems a b)
  | .object a, .object b => @decidable_of_iff _ (a = b) (by simp) (Value.decEqMembers a b)
  | .null, .bool _ | .null, .number _ | .null, .string _ | .null, .array _ | .null, .object _
  | .bool _, .null | .bool _, .number _ | .bool _, .string _ | .bool _, .array _
  | .bool _, .object _
  | .number _, .null | .number _, .bool _ | .number _, .string _ | .number _, .array _
  | .number _, .object _
  | .string _, .null | .string _, .bool _ | .string _, .number _ | .string _, .array _
  | .string _, .object _
  | .array _, .null | .array _, .bool _ | .array _, .number _ | .array _, .string _
  | .array _, .object _
  | .object _, .null | .object _, .bool _ | .object _, .number _ | .object _, .string _
  | .object _, .array _ => isFalse (by simp)

def Value.decEqItems : (a b : List Value) → Decidable (a = b)
  | [], [] => isTrue rfl
  | [], _ :: _ | _ :: _, [] => isFalse (by simp)
  | a :: as, b :: bs =>
    @decidable_of_iff _ (a = b ∧ as = bs) (by simp)
      (@instDecidableAnd _ _ (Value.decEq a b) (Value.decEqItems as bs))

def Value.decEqMembers : (a b : List (Text × Value)) → Decidable (a = b)
  | [], [] => isTrue rfl
  | [], _ :: _ | _ :: _, [] => isFalse (by simp)
  | (k, a) :: as, (l, b) :: bs =>
    @decidable_of_iff _ (k = l ∧ a = b ∧ as = bs) (by simp [and_assoc])
      (@instDecidableAnd _ _ _ (@instDecidableAnd _ _ (Value.decEq a b)
        (Value.decEqMembers as bs)))

end
instance : DecidableEq Value := Value.decEq

/-! ## Access -/

namespace Value

/-- `Value::get` with a key. -/
def get (key : String) : Value → Option Value
  | .object members => members.lookup key.toList
  | _ => none

/-- `Value::pointer`, for a path of keys none of which is a number. -/
def pointer : List String → Value → Option Value
  | [], value => some value
  | key :: path, value => (value.get key).bind (pointer path)

def asStr : Value → Option Text
  | .string s => some s
  | _ => none

def asU64 : Value → Option Nat
  | .number (.posInt n) => some n
  | _ => none

def asBool : Value → Option Bool
  | .bool b => some b
  | _ => none

def asArray : Value → Option (List Value)
  | .array items => some items
  | _ => none

end Value

/-! ## Text -/

/-- The escape of a character in a string: control characters, quotes and backslashes. -/
def escape (c : Char) : Text :=
  if c = '"' then ['\\', '"']
  else if c = '\\' then ['\\', '\\']
  else if c.toNat = 8 then ['\\', 'b']
  else if c.toNat = 9 then ['\\', 't']
  else if c.toNat = 10 then ['\\', 'n']
  else if c.toNat = 12 then ['\\', 'f']
  else if c.toNat = 13 then ['\\', 'r']
  else if c.toNat < 32 then
    ['\\', 'u', '0', '0'] ++ [Nat.digitChar (c.toNat / 16), Nat.digitChar (c.toNat % 16)]
  else [c]

def quoted (s : Text) : Text := '"' :: (s.flatMap escape ++ ['"'])

/-- A number as text; `float` is the shortest decimal of an `f64`. -/
def Number.text (float : ℚ → Text) : Number → Text
  | .posInt n => Nat.toDigits 10 n
  | .negInt n => '-' :: Nat.toDigits 10 n
  | .float q => float q

def commaSeparated : List Text → Text
  | [] => []
  | [t] => t
  | t :: ts => t ++ ',' :: commaSeparated ts

mutual

/-- `serde_json::to_string`. -/
def Value.text (float : ℚ → Text) : Value → Text
  | .null => "null".toList
  | .bool true => "true".toList
  | .bool false => "false".toList
  | .number n => n.text float
  | .string s => quoted s
  | .array items => '[' :: (commaSeparated (Value.itemTexts float items) ++ [']'])
  | .object members => '\x7b' :: (commaSeparated (Value.memberTexts float members) ++ ['\x7d'])

def Value.itemTexts (float : ℚ → Text) : List Value → List Text
  | [] => []
  | item :: items => Value.text float item :: Value.itemTexts float items

def Value.memberTexts (float : ℚ → Text) : List (Text × Value) → List Text
  | [] => []
  | (key, value) :: members =>
    (quoted key ++ ':' :: Value.text float value) :: Value.memberTexts float members

end

/-! ## Single-precision numbers -/

/-- An `f32`: its exact value, when it is finite. -/
inductive F32 where
  | finite (q : ℚ)
  | notFinite
deriving DecidableEq

/-- Round to an integer, ties to even. -/
def roundEven (q : ℚ) : ℤ :=
  if q - ⌊q⌋ < 1 / 2 then ⌊q⌋
  else if 1 / 2 < q - ⌊q⌋ then ⌊q⌋ + 1
  else if ⌊q⌋ % 2 = 0 then ⌊q⌋ else ⌊q⌋ + 1

/-- The conversion `as f32`: 24 significant bits, exponents from -126 to 127. -/
def F32.ofRat (q : ℚ) : F32 :=
  let ulp : ℚ := 2 ^ (max (Int.log 2 |q|) (-126) - 23)
  let rounded := roundEven (q / ulp) * ulp
  if |rounded| < 2 ^ 128 then .finite rounded else .notFinite

def Number.toF32 : Number → F32
  | .posInt n => F32.ofRat n
  | .negInt n => F32.ofRat (-n)
  | .float q => F32.ofRat q

/-! ## Decoders -/

/-- `serde_json::from_value` for one type. -/
abbrev Decode (α : Type) := Value → Except Error α

namespace Decode

variable {α : Type}

def string : Decode Text
  | .string s => .ok s
  | _ => .error .invalidType

def bool : Decode Bool
  | .bool b => .ok b
  | _ => .error .invalidType

def u64 : Decode Nat
  | .number (.posInt n) => .ok n
  | .number (.negInt _) => .error .invalidValue
  | _ => .error .invalidType

def f32 : Decode F32
  | .number n => .ok n.toF32
  | _ => .error .invalidType

def option (d : Decode α) : Decode (Option α)
  | .null => .ok none
  | v => (d v).map some

def vec (d : Decode α) : Decode (List α)
  | .array items => items.mapM d
  | _ => .error .invalidType

/-- A map from strings. -/
def map (d : Decode α) : Decode (List (Text × α))
  | .object members => members.mapM fun member => (d member.2).map (member.1, ·)
  | _ => .error .invalidType

def variant (variants : List (String × α)) (name : Text) : Except Error α :=
  match variants.find? fun v => v.1.toList == name with
  | some v => .ok v.2
  | none => .error (.unknownVariant name)

/-- An enumeration of unit variants: its name, or an object of its name and `null`. -/
def unitVariant (variants : List (String × α)) : Decode α
  | .string name => variant variants name
  | .object [(name, .null)] => variant variants name
  | .object [(name, _)] => do
    let _ ← variant variants name
    .error .invalidType
  | .object _ => .error .invalidValue
  | _ => .error .invalidType

end Decode

/-! ## Structs -/

/-- What a struct is read from. -/
inductive Fields where
  | named (members : List (Text × Value))
  | positional (items : List Value)

/-- A struct with the given fields and no others. -/
def Fields.ofValue (names : List String) : Value → Except Error Fields
  | .object members =>
    match members.find? fun member => !names.any (·.toList == member.1) with
    | some member => .error (.unknownField member.1)
    | none => .ok (.named members)
  | .array items =>
    if items.length ≤ names.length then .ok (.positional items)
    else .error (.invalidLength items.length)
  | _ => .error .invalidType

/-- A struct with the given fields that ignores others. -/
def Fields.ofValueLenient (names : List String) : Value → Except Error Fields
  | .object members => .ok (.named members)
  | .array items =>
    if items.length ≤ names.length then .ok (.positional items)
    else .error (.invalidLength items.length)
  | _ => .error .invalidType

namespace Fields

variable {α : Type}

/-- The value of a field, which is the one at `index` in declaration order. -/
def get (fields : Fields) (index : Nat) (name : String) : Option Value :=
  match fields with
  | .named members => members.lookup name.toList
  | .positional items => items[index]?

def required (fields : Fields) (index : Nat) (name : String) (d : Decode α) : Except Error α :=
  match fields.get index name, fields with
  | some v, _ => d v
  | none, .named _ => .error (.missingField name)
  | none, .positional _ => .error (.invalidLength index)

/-- A field with `#[serde(default)]`. -/
def orDefault (fields : Fields) (index : Nat) (name : String) (neutral : α) (d : Decode α) :
    Except Error α :=
  match fields.get index name with
  | some v => d v
  | none => .ok neutral

/-- An `Option` field without a default: it may be left out by name, not by position. -/
def optional (fields : Fields) (index : Nat) (name : String) (d : Decode α) :
    Except Error (Option α) :=
  match fields.get index name, fields with
  | some v, _ => Decode.option d v
  | none, .named _ => .ok none
  | none, .positional _ => .error (.invalidLength index)

end Fields

end NpcRuntime.Json
