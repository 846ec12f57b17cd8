import Mathlib.Algebra.Group.Int.Defs
import SteelInspection.Foundations.Text

/-! # JSON values and HTTP answers

The part of the JSON values and HTTP answers of the service that its handlers read and build.
-/

namespace SteelInspection

open Foundations

/-- A JSON value; the fields of an object stand in key order, a number that is no integer is kept
as it is written. -/
inductive Json where
  | null
  | bool (value : Bool)
  | int (value : Int)
  | float (text : String)
  | str (text : String)
  | arr (items : List Json)
  | obj (fields : List (String × Json))

namespace Json

def isObject : Json → Bool
  | .obj _ => true
  | _ => false

def get? (key : String) : Json → Option Json
  | .obj fields => (fields.find? fun field => field.1 == key).map (·.2)
  | _ => none

def asStr : Json → Option String
  | .str text => some text
  | _ => none

def asBool : Json → Option Bool
  | .bool value => some value
  | _ => none

def asI64 : Json → Option Int
  | .int value => if -2 ^ 63 ≤ value ∧ value < 2 ^ 63 then some value else none
  | _ => none

def asU64 : Json → Option Nat
  | .int value => if 0 ≤ value ∧ value < 2 ^ 64 then some value.toNat else none
  | _ => none

/-- `payload.get(a).or_else(|| payload.get(b))…`: the first of the keys that is present. -/
def getFirst? (keys : List String) (payload : Json) : Option Json :=
  keys.findSome? payload.get?

/-- Puts a field into an object, in its place in the key order. -/
def setField (key : String) (value : Json) : List (String × Json) → List (String × Json)
  | [] => [(key, value)]
  | field :: fields =>
    if field.1 = key then (key, value) :: fields
    else if key < field.1 then (key, value) :: field :: fields
    else field :: setField key value fields

theorem get?_setField (key other : String) (value : Json) (fields : List (String × Json)) :
    (obj (setField key value fields)).get? other =
      if key = other then some value else (obj fields).get? other := by
  induction fields with
  | nil => by_cases same : key = other <;> simp [setField, get?, same]
  | cons field fields ih =>
    simp only [get?] at ih ⊢
    unfold setField
    split
    · by_cases same : key = other <;> grind
    split
    · by_cases same : key = other <;> simp [same]
    · grind

private def escapeCharacter (character : Char) : String :=
  if character = '"' then "\\\""
  else if character = '\\' then "\\\\"
  else if character = '\n' then "\\n"
  else if character = '\r' then "\\r"
  else if character = '\t' then "\\t"
  else if character.toNat = 8 then "\\b"
  else if character.toNat = 12 then "\\f"
  else if character.toNat < 0x20 then
    "\\u00" ++ (if character.toNat < 16 then "0" else "1") ++
      String.singleton (Nat.digitChar (character.toNat % 16))
  else String.singleton character

private def escape (text : String) : String :=
  "\"" ++ String.join (text.toList.map escapeCharacter) ++ "\""

mutual

/-- The compact text of a value. -/
def render : Json → String
  | .null => "null"
  | .bool value => if value then "true" else "false"
  | .int value => toString value
  | .float text => text
  | .str text => escape text
  | .arr items => "[" ++ renderItems items ++ "]"
  | .obj fields => "\x7b" ++ renderFields fields ++ "\x7d"

def renderItems : List Json → String
  | [] => ""
  | [item] => item.render
  | item :: items => item.render ++ "," ++ renderItems items

def renderFields : List (String × Json) → String
  | [] => ""
  | [(key, value)] => escape key ++ ":" ++ value.render
  | (key, value) :: fields => escape key ++ ":" ++ value.render ++ "," ++ renderFields fields

end

end Json

/-- `value_string`: the first present key as trimmed text, empty when it is neither text nor an
integer. -/
def valueString (payload : Json) (keys : List String) : String :=
  match payload.getFirst? keys with
  | none => ""
  | some value =>
    match value.asStr, value.asI64, value.asU64 with
    | some text, _, _ => Text.trim text
    | none, some number, _ => Text.trim (toString number)
    | none, none, some number => Text.trim (toString number)
    | none, none, none => ""

def materialIdFromPayload (payload : Json) (fallback : String) : String :=
  let id := valueString payload
    ["materialId", "material_id", "steelId", "steel_id", "steelNo", "steel_no", "id"]
  if id.isEmpty then fallback else id

/-- An HTTP answer: its status line, the text of its body and what a JSON reader makes of it. -/
structure HttpResponse where
  code : Nat
  reason : String
  text : String
  body : Option Json

namespace HttpResponse

def statusLine (response : HttpResponse) : String :=
  "HTTP/1.1 " ++ toString response.code ++ " " ++ response.reason

def json (code : Nat) (reason : String) (body : Json) : HttpResponse :=
  ⟨code, reason, body.render, some body⟩

end HttpResponse

end SteelInspection
