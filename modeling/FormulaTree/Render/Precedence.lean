import FormulaTree.Formula.Basic
import FormulaTree.Render.Options

set_option autoImplicit false

namespace FormulaTree.Render

def controlPrecedence : Nat := 0

/-- The precedence of an operator, by the function it stands for. -/
def operatorPrecedence (function : String) : Option Nat :=
  if function = "or" then some 1
  else if function = "and" then some 2
  else if function ∈ ["equal", "unequal", "smaller", "larger", "smallerEq", "largerEq"] then some 3
  else if function ∈ ["add", "subtract"] then some 4
  else if function ∈ ["multiply", "divide", "mod"] then some 5
  else if function ∈ ["unaryMinus", "unaryPlus", "not"] then some 6
  else if function = "pow" then some 7
  else none

/-- Operators whose right operand may have the same precedence without parentheses. -/
def groupsRight (function : String) : Bool :=
  function ∈ ["add", "multiply", "and", "or", "pow"]

def precedence (mode : Parentheses) : Formula → Option Nat
  | .parenthesis content =>
    match mode with
    | .keep => none
    | .all => precedence mode content
  | .assignment _ _ => some controlPrecedence
  | .conditional _ _ => some controlPrecedence
  | .operation _ function _ => operatorPrecedence function
  | .constant _ => none
  | .symbol _ => none
  | .block _ => none
  | .call _ _ => none

/-- Whether an operand needs parentheses to keep its grouping. `first` tells the only or left
operand from the right one. -/
def operandNeedsParentheses (mode : Parentheses) (function : String) (unary first : Bool)
    (operand : Formula) : Bool :=
  match precedence mode operand with
  | none => false
  | some inner =>
    match mode with
    | .all => true
    | .keep =>
      match operatorPrecedence function with
      | none => false
      | some own =>
        if inner ≠ own then inner < own
        else if unary then true
        else if first then function = "pow"
        else !groupsRight function

def looseNeedsParentheses (mode : Parentheses) (formula : Formula) : Bool :=
  match mode with
  | .all => true
  | .keep =>
    match precedence mode formula with
    | none => false
    | some inner => inner ≤ controlPrecedence

end FormulaTree.Render
