import FormulaTree.Formula.Basic
import FormulaTree.Value.Encoding

set_option autoImplicit false

namespace FormulaTree.Formula

def record (kind : Kind) (fields : List (String × Json)) : Json :=
  Record.tagged kind.tag fields

mutual

def toJson : Formula → Json
  | .constant value => record .constant [("value", value.toJson)]
  | .symbol name => record .symbol [("name", .string name)]
  | .assignment target value =>
    record .assignment [("object", toJson target), ("value", toJson value)]
  | .block statements => record .block [("blocks", .array (statementsToJson statements))]
  | .operation op function operands =>
    record .operation
      [("op", .string op), ("fn", .string function), ("args", .array (allToJson operands))]
  | .parenthesis content => record .parenthesis [("content", toJson content)]
  | .call function arguments =>
    record .call [("fn", .string function), ("args", .array (allToJson arguments))]
  | .conditional conditions blocks =>
    record .conditional
      [("conditions", .array (allToJson conditions)), ("blockNodes", .array (allToJson blocks))]

def allToJson : List Formula → List Json
  | [] => []
  | formula :: rest => toJson formula :: allToJson rest

def statementsToJson : List (Formula × Bool) → List Json
  | [] => []
  | (statement, visible) :: rest =>
    Json.ofFields [("node", toJson statement), ("visible", .bool visible)] :: statementsToJson rest

end

end FormulaTree.Formula
