import FormulaTree.Error
import FormulaTree.Json.Writer
import FormulaTree.Text.Quoted

/-!
# Records

A record is a JSON object with a field that names its kind. A schema declares the other fields. An
object is checked field by field in its own order, then for fields that are missing; an array is
taken as the fields in the order of declaration.
-/

set_option autoImplicit false

namespace FormulaTree

def Json.describe : Json → String
  | .null => "null"
  | .bool true => "boolean `true`"
  | .bool false => "boolean `false`"
  | .number (.integer n) => "integer `" ++ writeNumber (.integer n) ++ "`"
  | .number (.real x) => "floating point `" ++ writeNumber (.real x) ++ "`"
  | .string text => "string " ++ Text.quoted text
  | .array _ => "sequence"
  | .object _ => "map"

namespace Record

def kindField : String := "kind"

def tagged (kind : String) (fields : List (String × Json)) : Json :=
  Json.ofFields ((kindField, .string kind) :: fields)

structure Field where
  name : String
  check : Json → Except RecordFault Unit
  optional : Bool

def unexpected (found : Json) (expected : String) : RecordFault :=
  .unexpected found.describe expected

def checkText : Json → Except RecordFault Unit
  | .string _ => .ok ()
  | other => .error (unexpected other "a string")

def checkFlag : Json → Except RecordFault Unit
  | .bool _ => .ok ()
  | other => .error (unexpected other "a boolean")

def Field.any (name : String) : Field := ⟨name, fun _ => .ok (), false⟩

def Field.text (name : String) : Field := ⟨name, checkText, false⟩

def Field.flag (name : String) : Field := ⟨name, checkFlag, true⟩

structure Schema where
  name : String
  fields : List Field

def Schema.title (schema : Schema) : String :=
  "struct " ++ schema.name

def Schema.checkField (schema : Schema) (name : String) (value : Json) :
    Except RecordFault Unit :=
  match schema.fields.find? (·.name = name) with
  | some field => field.check value
  | none => .ok ()

def Schema.checkPresent (schema : Schema) : List (String × Json) → Except RecordFault Unit
  | [] => .ok ()
  | (name, value) :: rest => do
    schema.checkField name value
    schema.checkPresent rest

def checkMissing (object : List (String × Json)) : List Field → Except RecordFault Unit
  | [] => .ok ()
  | field :: rest =>
    if field.optional || Bindings.contains field.name object then checkMissing object rest
    else .error (.missingField field.name)

def Schema.checkObject (schema : Schema) (object : List (String × Json)) :
    Except RecordFault Unit := do
  schema.checkPresent object
  checkMissing object schema.fields

/-- The items of an array of `length` as the values of the fields that are still to come. -/
def Schema.assign (schema : Schema) (length : Nat) :
    List Field → List Json → Except RecordFault (List (String × Json))
  | [], [] => .ok []
  | [], _ :: _ => .error (.tooLong length)
  | field :: fields, [] =>
    if field.optional then schema.assign length fields []
    else .error (.tooShort length schema.name schema.fields.length)
  | field :: fields, item :: items => do
    field.check item
    let rest ← schema.assign length fields items
    .ok ((field.name, item) :: rest)

/-- The fields of a record that is given as an object or as an array. -/
def Schema.fieldsOf (schema : Schema) : Json → Except RecordFault (List (String × Json))
  | .object object => do
    schema.checkObject object
    .ok object
  | .array items => schema.assign items.length schema.fields items
  | other => .error (unexpected other schema.title)

/-- The value of a flag that is true where it is left out. -/
def flagOf (name : String) (fields : List (String × Json)) : Bool :=
  match Bindings.get? name fields with
  | some (.bool value) => value
  | _ => true

def textOf (name : String) (fields : List (String × Json)) : String :=
  match Bindings.get? name fields with
  | some (.string text) => text
  | _ => ""

end Record

end FormulaTree
