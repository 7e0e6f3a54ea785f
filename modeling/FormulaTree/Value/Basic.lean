import FormulaTree.Decimal.Basic

set_option autoImplicit false

namespace FormulaTree

inductive Value where
  | null
  | bool (value : Bool)
  | number (value : Float)
  | string (text : String)
  | decimal (value : Decimal)
  | complex (re im : Float)
  /-- A quantity with a physical unit, or a unit on its own. -/
  | unit (magnitude : Option Float) (name : String)
  | matrix (items : List Value)
  | object (entries : List (String × Value))
  /-- The visible results of a block, in the order of evaluation. -/
  | resultSet (items : List Value)
deriving Inhabited

inductive Value.Kind where
  | null
  | bool
  | number
  | string
  | decimal
  | complex
  | unit
  | matrix
  | object
  | resultSet
deriving DecidableEq, Repr

namespace Value

def Kind.name : Kind → String
  | .null => "null"
  | .bool => "boolean"
  | .number => "number"
  | .string => "string"
  | .decimal => "BigNumber"
  | .complex => "Complex"
  | .unit => "Unit"
  | .matrix => "Matrix"
  | .object => "Object"
  | .resultSet => "ResultSet"

def kind : Value → Kind
  | .null => .null
  | .bool _ => .bool
  | .number _ => .number
  | .string _ => .string
  | .decimal _ => .decimal
  | .complex _ _ => .complex
  | .unit _ _ => .unit
  | .matrix _ => .matrix
  | .object _ => .object
  | .resultSet _ => .resultSet

def isNumeric : Value → Bool
  | .number _ | .decimal _ | .complex _ _ => true
  | _ => false

def ofBit (b : Bool) : Float :=
  if b then 1.0 else 0.0

/-- The double of a number, a truth value or, rounded, a decimal. -/
def float? : Value → Option Float
  | .number x => some x
  | .bool b => some (ofBit b)
  | .decimal d => some d.toFloat
  | _ => none

def string? : Value → Option String
  | .string text => some text
  | _ => none

def items? : Value → Option (List Value)
  | .matrix items | .resultSet items => some items
  | _ => none

end Value

end FormulaTree
