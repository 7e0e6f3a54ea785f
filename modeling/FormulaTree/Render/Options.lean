import FormulaTree.Record

set_option autoImplicit false

namespace FormulaTree.Render

/-- With `keep`, parentheses stand where the formula has them and where precedence asks for them;
with `all`, around every operand that could have them, and none stand for those of the formula. -/
inductive Parentheses where
  | keep
  | all
deriving DecidableEq, Repr

def Parentheses.name : Parentheses → String
  | .keep => "keep"
  | .all => "all"

def Parentheses.ofName? (name : String) : Option Parentheses :=
  if name = "keep" then some .keep
  else if name = "all" then some .all
  else none

def Parentheses.ofText (text : String) : Except Error Parentheses :=
  match Parentheses.ofName? text with
  | some mode => .ok mode
  | none => .error (.invalidArgument (.parenthesesOption text))

def Parentheses.ofVariant (name : String) : Except RecordFault Parentheses :=
  match Parentheses.ofName? name with
  | some mode => .ok mode
  | none => .error (.unknownVariant name ["keep", "all"])

def Parentheses.ofJson : Json → Except RecordFault Parentheses
  | .string name => Parentheses.ofVariant name
  | .object [(name, content)] => do
    let mode ← Parentheses.ofVariant name
    match content with
    | .null => .ok mode
    | other => .error (Record.unexpected other "unit")
  | .object _ => .error .notSingleKey
  | other => .error (Record.unexpected other "string or map")

structure Options where
  parentheses : Parentheses := .keep
deriving DecidableEq, Repr

namespace Options

def field : String := "parenthesis"

def schema : Record.Schema :=
  ⟨"RenderOptions", [⟨field, fun json => (Parentheses.ofJson json).map fun _ => (), true⟩]⟩

def ofJson (json : Json) : Except RecordFault Options := do
  let fields ← schema.fieldsOf json
  match Bindings.get? field fields with
  | some json => Options.mk <$> Parentheses.ofJson json
  | none => .ok {}

def toJson (options : Options) : Json :=
  Json.ofFields [(field, .string options.parentheses.name)]

end Options

end FormulaTree.Render
