import Mathlib.Data.List.Basic
import Mathlib.Tactic.Cases
import Codaze.Foundation.Machine

/-!
# JSON documents

A document keeps its fields in order and keeps repeated keys. `get?` reads it as
`serde_json::Value` does, where the last of a repeated key counts.
-/
namespace Codaze.Foundation

/-- A lookup finds the first entry of its name. -/
theorem lookup_eq_head?_filter {α : Type} (entries : List (String × α)) (name : String) :
    entries.lookup name = (entries.filter fun entry => entry.1 = name).head?.map (·.2) := by
  induction entries with
  | nil => rfl
  | cons entry entries ih =>
    obtain ⟨key, value⟩ := entry
    by_cases hkey : key = name
    · simp [hkey]
    · have hne : (name == key) = false := by simpa using Ne.symm hkey
      rw [List.lookup_cons, hne, List.filter_cons_of_neg (by simpa using hkey), ih]

/-- `serde_json::Number`; a float is kept as its text. -/
inductive JsonNumber where
  | posInt (n : ℕ)
  | negInt (n : ℤ)
  | float (text : String)
  deriving DecidableEq, Repr

inductive Json where
  | null
  | bool (value : Bool)
  | number (value : JsonNumber)
  | string (value : String)
  | array (items : List Json)
  | object (fields : List (String × Json))

namespace Json

/-- `Value::get` with a string key. -/
def get? (json : Json) (key : String) : Option Json :=
  match json with
  | object fields => fields.reverse.lookup key
  | _ => none

/-- `Value::as_str`. -/
def asStr? : Json → Option String
  | string value => some value
  | _ => none

/-- `Value::as_i64`. -/
def asI64? : Json → Option ℤ
  | number (.posInt n) => if (n : ℤ) ≤ i64Max then some n else none
  | number (.negInt n) => some n
  | _ => none

/-- `Value::as_u64`. -/
def asU64? : Json → Option ℕ
  | number (.posInt n) => some n
  | _ => none

/-- `Value::as_object`. -/
def asObject? : Json → Option (List (String × Json))
  | object fields => some fields
  | _ => none

/-- `Value::Number` of an `i64`. -/
def ofI64 (n : ℤ) : Json := number (if 0 ≤ n then .posInt n.toNat else .negInt n)

/-- The field at a path of keys. -/
def getPath? : Json → List String → Option Json
  | json, [] => some json
  | json, key :: path => (json.get? key).bind fun value => value.getPath? path

/-- `*json.pointer_mut(path) = value`; nothing where the path leads nowhere. -/
def replacePath : Json → List String → Json → Json
  | _, [], value => value
  | object fields, key :: path, value => object <| fields.map fun field =>
      if field.1 = key then (field.1, replacePath field.2 path value) else field
  | json, _, _ => json

end Json

/-- `Number`'s `Display`. -/
def JsonNumber.toText : JsonNumber → String
  | posInt n => toString n
  | negInt n => toString n
  | float text => text

/-- A character inside a JSON string. -/
def escapeChar (c : Char) : List Char :=
  if c = '"' then ['\\', '"']
  else if c = '\\' then ['\\', '\\']
  else if c = '\n' then ['\\', 'n']
  else if c = '\r' then ['\\', 'r']
  else if c = '\t' then ['\\', 't']
  else if c.toNat = 8 then ['\\', 'b']
  else if c.toNat = 12 then ['\\', 'f']
  else if c.toNat < 32 then
    ['\\', 'u', '0', '0', Nat.digitChar (c.toNat / 16), Nat.digitChar (c.toNat % 16)]
  else [c]

def quote (s : String) : List Char := ['"'] ++ s.toList.flatMap escapeChar ++ ['"']

mutual

/-- A document without blanks, its fields in order. -/
def Json.compact : Json → List Char
  | .null => "null".toList
  | .bool value => (toString value).toList
  | .number value => value.toText.toList
  | .string value => quote value
  | .array items => ['['] ++ [','].intercalate (compactItems items) ++ [']']
  | .object fields => ['\x7b'] ++ [','].intercalate (compactFields fields) ++ ['\x7d']

def compactItems : List Json → List (List Char)
  | [] => []
  | item :: items => item.compact :: compactItems items

def compactFields : List (String × Json) → List (List Char)
  | [] => []
  | (key, value) :: fields => (quote key ++ [':'] ++ value.compact) :: compactFields fields

end

end Codaze.Foundation
