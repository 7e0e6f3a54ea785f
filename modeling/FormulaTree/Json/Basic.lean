import FormulaTree.Bindings

/-!
# JSON values

A JSON value as plain data. Whole numbers that fit a machine word are kept apart from all other
numbers, which are doubles. The fields of an object are a list; those that are read from text or
made by `Json.ofFields` ascend by name, each name once.
-/

set_option autoImplicit false

namespace FormulaTree

inductive Number where
  | integer (value : Int)
  | real (value : Float)
deriving DecidableEq

inductive Json where
  | null
  | bool (value : Bool)
  | number (value : Number)
  | string (value : String)
  | array (items : List Json)
  | object (fields : List (String × Json))
deriving Inhabited

def Number.toFloat : Number → Float
  | .integer n => Float.ofInt n
  | .real x => x

namespace Json

/-- How JSON values are put into texts, and which texts are taken for which values. -/
structure Codec where
  write : Json → String
  read? : String → Option Json

def ofFields (fields : List (String × Json)) : Json :=
  .object (Bindings.ascending fields)

def isObject : Json → Bool
  | .object _ => true
  | _ => false

def fields : Json → List (String × Json)
  | .object fields => fields
  | _ => []

def items? : Json → Option (List Json)
  | .array items => some items
  | _ => none

def string? : Json → Option String
  | .string text => some text
  | _ => none

end Json

end FormulaTree
