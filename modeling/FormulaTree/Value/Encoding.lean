import FormulaTree.Record
import FormulaTree.Value.Display

/-!
# Values as JSON

Null, truth values, finite numbers and strings stand for themselves. Every other kind is an object
whose `kind` field names it, so the keys of an object value are kept apart under `entries`. Reading
also takes a plain array as a matrix.
-/

set_option autoImplicit false

namespace FormulaTree.Value

def partToJson (x : Float) : Json :=
  if x.isFinite then .number (.real x) else .string (writeNumber x)

mutual

def toJson : Value → Json
  | .null => .null
  | .bool b => .bool b
  | .number x =>
    if x.isFinite then .number (.real x)
    else Record.tagged "Number" [("value", .string (writeNumber x))]
  | .string text => .string text
  | .decimal d => Record.tagged "BigNumber" [("value", .string d.write)]
  | .complex re im => Record.tagged "Complex" [("re", partToJson re), ("im", partToJson im)]
  | .unit magnitude name =>
    Record.tagged "Unit" [("value", (magnitude.map partToJson).getD .null), ("unit", .string name)]
  | .matrix items => Record.tagged "DenseMatrix" [("data", .array (itemsToJson items))]
  | .object entries => Record.tagged "Object" [("entries", Json.ofFields (entriesToJson entries))]
  | .resultSet items => Record.tagged "ResultSet" [("entries", .array (itemsToJson items))]

def itemsToJson : List Value → List Json
  | [] => []
  | item :: rest => toJson item :: itemsToJson rest

def entriesToJson : List (String × Value) → List (String × Json)
  | [] => []
  | (key, value) :: rest => (key, toJson value) :: entriesToJson rest

end

def partOfJson? : Json → Option Float
  | .number n => some n.toFloat
  | .string text =>
    if text = "NaN" then some (0.0 / 0.0)
    else if text = "Infinity" then some (1.0 / 0.0)
    else if text = "-Infinity" then some (-1.0 / 0.0)
    else none
  | _ => none

def field (kind name : String) (fields : List (String × Json)) : Except Error Json :=
  match Bindings.get? name fields with
  | some json => .ok json
  | none => .error (.malformed kind (.missingField name))

def numberField (kind name : String) (fields : List (String × Json)) : Except Error Float := do
  match partOfJson? (← field kind name fields) with
  | some x => .ok x
  | none => .error (.malformed kind (.notNumber name))

def textField (kind name label : String) (fields : List (String × Json)) :
    Except Error String := do
  match (← field kind name fields).string? with
  | some text => .ok text
  | none => .error (.malformed kind (.notText label))

def decimalOfText (text : String) : Except Error Decimal :=
  match Decimal.ofLiteral? text with
  | some d => .ok d
  | none => .error (.invalidArgument (.literal text))

/-- The magnitude of a unit; a missing one and null both stand for a bare unit. -/
def magnitudeField (fields : List (String × Json)) : Except Error (Option Float) :=
  match Bindings.get? "value" fields with
  | none | some .null => .ok none
  | some _ => some <$> numberField "Unit" "value" fields

mutual

def ofJson : Json → Except Error Value
  | .null => .ok .null
  | .bool b => .ok (.bool b)
  | .number n => .ok (.number n.toFloat)
  | .string text => .ok (.string text)
  | .array items => .matrix <$> itemsOfJson items
  | .object fields =>
    match Bindings.get? Record.kindField fields with
    | some (.string "Number") => .number <$> numberField "Number" "value" fields
    | some (.string "BigNumber") => do
      let text ← textField "BigNumber" "value" "value" fields
      .decimal <$> decimalOfText text
    | some (.string "Complex") => do
      let re ← numberField "Complex" "re" fields
      let im ← numberField "Complex" "im" fields
      .ok (.complex re im)
    | some (.string "Unit") => do
      let magnitude ← magnitudeField fields
      let name ← textField "Unit" "unit" "unit" fields
      .ok (.unit magnitude name)
    | some (.string "DenseMatrix") => .matrix <$> listField "DenseMatrix" "data" fields
    | some (.string "Object") => .object <$> entriesField fields
    | some (.string "ResultSet") => .resultSet <$> listField "ResultSet" "entries" fields
    | some (.string kind) => .error (.malformed "value" (.unknownValue kind))
    | _ => .error (.malformed "value" .untaggedValue)

def itemsOfJson : List Json → Except Error (List Value)
  | [] => .ok []
  | item :: rest => do
    let value ← ofJson item
    let values ← itemsOfJson rest
    .ok (value :: values)

def listField (kind name : String) : List (String × Json) → Except Error (List Value)
  | [] => .error (.malformed kind (.missingField name))
  | (key, json) :: rest =>
    if key = name then
      match json with
      | .array items => itemsOfJson items
      | _ => .error (.malformed kind (.notList name))
    else listField kind name rest

def entriesField : List (String × Json) → Except Error (List (String × Value))
  | [] => .error (.malformed "Object" (.missingField "entries"))
  | (key, json) :: rest =>
    if key = "entries" then
      match json with
      | .object fields => entriesOfJson fields
      | _ => .error (.malformed "Object" .notEntries)
    else entriesField rest

def entriesOfJson : List (String × Json) → Except Error (List (String × Value))
  | [] => .ok []
  | (key, json) :: rest => do
    let value ← ofJson json
    let values ← entriesOfJson rest
    .ok ((key, value) :: values)

end

end FormulaTree.Value
