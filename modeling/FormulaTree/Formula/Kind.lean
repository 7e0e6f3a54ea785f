import FormulaTree.Text.Numeral

set_option autoImplicit false

namespace FormulaTree.Formula

inductive Kind where
  | constant
  | symbol
  | assignment
  | block
  | operation
  | parenthesis
  | call
  | conditional
deriving DecidableEq, Repr

def Kind.tag : Kind → String
  | .constant => "ConstantNode"
  | .symbol => "SymbolNode"
  | .assignment => "AssignmentNode"
  | .block => "BlockNode"
  | .operation => "OperatorNode"
  | .parenthesis => "ParenthesisNode"
  | .call => "FunctionNode"
  | .conditional => "IfElseNode"

def Kind.all : List Kind :=
  [.constant, .symbol, .assignment, .block, .operation, .parenthesis, .call, .conditional]

/-- The place of a part. The first condition and block of a conditional have positions of their
own; the later ones are numbered from one. -/
inductive Position where
  | ifCondition
  | elseIfCondition (index : Nat)
  | ifBlock
  | elseIfBlock (index : Nat)
  | elseBlock
  | target
  | value
  | statement (index : Nat)
  | argument (index : Nat)
  | content
deriving DecidableEq, Repr

def Position.condition : Nat → Position
  | 0 => .ifCondition
  | i + 1 => .elseIfCondition (i + 1)

def Position.block : Nat → Position
  | 0 => .ifBlock
  | i + 1 => .elseIfBlock (i + 1)

def indexed (name : String) (index : Nat) : String :=
  name ++ "[" ++ String.ofList (Text.writeNatural index) ++ "]"

def Position.label : Position → String
  | .ifCondition => "ifCondition"
  | .elseIfCondition i => indexed "elseIfCondition" i
  | .ifBlock => "ifBlock"
  | .elseIfBlock i => indexed "elseIfBlock" i
  | .elseBlock => "elseBlock"
  | .target => "object"
  | .value => "value"
  | .statement i => indexed "blocks" i
  | .argument i => indexed "args" i
  | .content => "content"

end FormulaTree.Formula
