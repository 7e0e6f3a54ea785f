import FormulaTree.Error

set_option autoImplicit false

namespace FormulaTree.Value

def numberTruth (x : Float) : Bool :=
  x != 0.0 && !x.isNaN

/-- The truth value by which a condition selects its branch; containers have none. -/
def truth : Value → Except Error Bool
  | .null => .ok false
  | .bool b => .ok b
  | .number x => .ok (numberTruth x)
  | .string text => .ok (text != "")
  | .decimal d => .ok (!d.isZero)
  | .complex re im => .ok (numberTruth re || numberTruth im)
  | .unit none _ => .ok false
  | .unit (some x) _ => .ok (numberTruth x)
  | .matrix _ => .error (.noTruthValue .matrix)
  | .object _ => .error (.noTruthValue .object)
  | .resultSet _ => .error (.noTruthValue .resultSet)

def outcomeTruth : Option Value → Except Error Bool
  | none => .ok false
  | some value => value.truth

def toNumber : Value → Except Error Float
  | .number x => .ok x
  | .bool b => .ok (ofBit b)
  | value => .error (.notNumber value.kind)

end FormulaTree.Value
