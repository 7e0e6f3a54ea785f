import FormulaTree.Formula.Basic
import FormulaTree.Json.Basic
import FormulaTree.Value.Encoding

/-!
# Reading formulas from records

A registry says for each tag how a record of that tag becomes a formula. The parts of a record are
read through the same registry. First the shape of a record is checked, then its parts are read from
left to right, then the formula checks its parts, and the first failure is reported.
-/

set_option autoImplicit false

namespace FormulaTree

/-- How a record becomes a formula: as one of the eight kinds, as the formula in one of its fields,
or as a result that does not depend on it. -/
inductive Registry.Reading where
  | kind (kind : Formula.Kind)
  | inside (field : String)
  | fixed (result : Except Error Formula)

/-- What a tag stands for: a reading, or whatever another tag stands for. -/
inductive Registry.Rule where
  | direct (reading : Registry.Reading)
  | sameAs (tag : String)

structure Registry where
  rules : List (String × Registry.Rule)

namespace Registry

def empty : Registry := ⟨[]⟩

def register (registry : Registry) (tag : String) (rule : Rule) : Registry :=
  ⟨Bindings.set tag rule registry.rules⟩

def isRegistered (registry : Registry) (tag : String) : Bool :=
  Bindings.contains tag registry.rules

def standard : Registry :=
  Formula.Kind.all.foldl (fun registry kind => registry.register kind.tag (.direct (.kind kind)))
    empty

def tags (registry : Registry) : List String :=
  Bindings.names (Bindings.ascending registry.rules)

def describe (registry : Registry) : String :=
  "NodeRegistry \x7b tags: [" ++ ", ".intercalate (registry.tags.map Text.quoted) ++ "] \x7d"

def follow (registry : Registry) : Nat → String → Except Error Reading
  | length, tag =>
    match Bindings.get? tag registry.rules with
    | none => .error (.unregistered tag)
    | some (.direct reading) => .ok reading
    | some (.sameAs other) =>
      match length with
      | 0 => .error (.unregistered tag)
      | length + 1 => registry.follow length other

/-- The reading that `tag` stands for. Tags that stand for each other in a circle stand for
nothing. -/
def reading (registry : Registry) (tag : String) : Except Error Reading :=
  registry.follow registry.rules.length tag

def checkValue (json : Json) : Except RecordFault Unit :=
  match Value.ofJson json with
  | .ok _ => .ok ()
  | .error cause => .error (.invalidValue cause)

open Record in
/-- The record of each kind. -/
def schema : Formula.Kind → Schema
  | .constant => ⟨"ConstantRecord", [⟨"value", checkValue, false⟩]⟩
  | .symbol => ⟨"SymbolRecord", [.text "name"]⟩
  | .assignment => ⟨"AssignmentRecord", [.any "object", .any "value"]⟩
  | .block => ⟨"BlockRecord", [.any "blocks"]⟩
  | .operation => ⟨"OperatorRecord", [.text "op", .text "fn", .any "args"]⟩
  | .parenthesis => ⟨"ParenthesisRecord", [.any "content"]⟩
  | .call => ⟨"FunctionRecord", [.text "fn", .any "args"]⟩
  | .conditional => ⟨"IfElseRecord", [.any "conditions", .any "blockNodes"]⟩

open Record in
def statementSchema : Schema :=
  ⟨"BlockEntryRecord", [.any "node", .flag "visible"]⟩

def fieldsOf (kind : Formula.Kind) (schema : Record.Schema) (json : Json) :
    Except Error (List (String × Json)) :=
  (schema.fieldsOf json).mapError (.malformed kind.tag)

def ownTag (fields : List (String × Json)) : Except Error String :=
  match Bindings.get? Record.kindField fields with
  | some (.string tag) => .ok tag
  | _ => .error (.invalidArgument .untaggedRecord)

/-- The tag that a record is read by: the given one, or its own where none is given. -/
def tagFor (fields : List (String × Json)) : Option String → Except Error String
  | some tag => .ok tag
  | none => ownTag fields

mutual

/-- Reads an object as a record of the given tag, or of its own where none is given. -/
def decodeAs (registry : Registry) (tag : Option String) : Json → Except Error Formula
  | .object fields => do
    let tag ← tagFor fields tag
    match ← registry.reading tag with
    | .fixed result => result
    | .inside field => registry.decodeInside field fields
    | .kind kind =>
      let _ ← fieldsOf kind (schema kind) (.object fields)
      match kind with
      | .constant => do
        let json ← Value.field kind.tag "value" fields
        .constant <$> Value.ofJson json
      | .symbol => .ok (.symbol (Record.textOf "name" fields))
      | .assignment => do
        let target ← registry.decodePart kind "object" fields
        let value ← registry.decodePart kind "value" fields
        Formula.checkedAssignment target value
      | .block => do
        let statements ← registry.decodeStatements fields
        Formula.checkedBlock statements
      | .operation => do
        let operands ← registry.decodeParts kind "args" fields
        Formula.checkedOperation (Record.textOf "op" fields) (Record.textOf "fn" fields) operands
      | .parenthesis => .parenthesis <$> registry.decodePart kind "content" fields
      | .call => .call (Record.textOf "fn" fields) <$> registry.decodeParts kind "args" fields
      | .conditional => do
        let conditions ← registry.decodeParts kind "conditions" fields
        let blocks ← registry.decodeParts kind "blockNodes" fields
        Formula.checkedConditional conditions blocks
  | _ => .error (.invalidArgument .untaggedRecord)

def decodeInside (registry : Registry) (name : String) :
    List (String × Json) → Except Error Formula
  | [] => .error (.invalidArgument .untaggedRecord)
  | (key, json) :: rest =>
    if key = name then registry.decodeAs none json else registry.decodeInside name rest

def decodePart (registry : Registry) (parent : Formula.Kind) (name : String) :
    List (String × Json) → Except Error Formula
  | [] => .error (.malformed parent.tag (.missingField name))
  | (key, json) :: rest =>
    if key = name then
      if json.isObject then registry.decodeAs none json
      else .error (.invalidArgument (.notRecord parent name))
    else registry.decodePart parent name rest

def decodeParts (registry : Registry) (parent : Formula.Kind) (name : String) :
    List (String × Json) → Except Error (List Formula)
  | [] => .error (.malformed parent.tag (.missingField name))
  | (key, json) :: rest =>
    if key = name then
      match json with
      | .array items => registry.decodeItems parent name items
      | _ => .error (.invalidArgument (.notArray parent name))
    else registry.decodeParts parent name rest

def decodeItems (registry : Registry) (parent : Formula.Kind) (name : String) :
    List Json → Except Error (List Formula)
  | [] => .ok []
  | json :: rest => do
    let part ← (if json.isObject then registry.decodeAs none json
      else .error (.invalidArgument (.notRecord parent name)))
    let parts ← registry.decodeItems parent name rest
    .ok (part :: parts)

def decodeStatements (registry : Registry) :
    List (String × Json) → Except Error (List (Formula × Bool))
  | [] => .error (.malformed Formula.Kind.block.tag (.missingField "blocks"))
  | (key, json) :: rest =>
    if key = "blocks" then
      match json with
      | .array items => registry.decodeEntries items
      | _ => .error (.invalidArgument (.notArray .block "blocks"))
    else registry.decodeStatements rest

def decodeEntries (registry : Registry) : List Json → Except Error (List (Formula × Bool))
  | [] => .ok []
  | json :: rest => do
    let fields ← fieldsOf .block statementSchema json
    let statement ← registry.decodeEntry json
    let statements ← registry.decodeEntries rest
    .ok ((statement, Record.flagOf "visible" fields) :: statements)

/-- Reads the statement of an entry, which is its field `node` or, in an array, its first item. -/
def decodeEntry (registry : Registry) : Json → Except Error Formula
  | .object fields => registry.decodeNode fields
  | .array (json :: _) =>
    if json.isObject then registry.decodeAs none json
    else .error (.invalidArgument (.notRecord .block "blocks"))
  | _ => .error (.malformed Formula.Kind.block.tag (.missingField "node"))

def decodeNode (registry : Registry) : List (String × Json) → Except Error Formula
  | [] => .error (.malformed Formula.Kind.block.tag (.missingField "node"))
  | (key, json) :: rest =>
    if key = "node" then
      if json.isObject then registry.decodeAs none json
      else .error (.invalidArgument (.notRecord .block "blocks"))
    else registry.decodeNode rest

end

def decode (registry : Registry) (json : Json) : Except Error Formula :=
  registry.decodeAs none json

/-- Reads a record by the given tag. An array is taken as the fields of a kind in the order of their
declaration. -/
def decodeTagged (registry : Registry) (tag : String) (json : Json) : Except Error Formula :=
  match json with
  | .object _ => registry.decodeAs (some tag) json
  | _ => do
    match ← registry.reading tag with
    | .fixed result => result
    | .inside _ => .error (.invalidArgument .untaggedRecord)
    | .kind kind =>
      let fields ← fieldsOf kind (schema kind) json
      registry.decodeAs (some tag) (.object fields)

def decodeText (registry : Registry) (codec : Json.Codec) (text : String) :
    Except Error Formula :=
  match codec.read? text with
  | some json => registry.decode json
  | none => .error .notJson

end Registry

end FormulaTree
