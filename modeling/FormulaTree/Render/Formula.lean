import FormulaTree.Render.Markup
import FormulaTree.Render.Precedence
import FormulaTree.Text.Alphabetic
import FormulaTree.Value.Display

set_option autoImplicit false

namespace FormulaTree

namespace Render

def texConstant : Value → String
  | .number x =>
    if x.isInf then (if 0.0 < x then "\\infty" else "-\\infty") else (Value.number x).write
  | .string text => "\\mathtt" ++ group ("\"" ++ text ++ "\"")
  | .bool b => "\\mathrm" ++ group (Value.bool b).write
  | .null => "\\mathrm" ++ group Value.null.write
  | value => value.write

def constantClass : Value → String
  | .string _ => "math-string"
  | .bool _ => "math-boolean"
  | .null => "math-null-symbol"
  | _ => "math-number"

def layoutConstant (style : Style) (value : Value) : String :=
  match style with
  | .text => value.write
  | .tex => texConstant value
  | .html => span (constantClass value) (Text.escapeMarkup value.write)

def texSymbol (name : String) : String :=
  if name = "pi" then "\\pi"
  else if name.toList.length = 1 then name
  else "\\mathrm" ++ group name

def layoutSymbol (style : Style) (name : String) : String :=
  match style with
  | .text => name
  | .tex => texSymbol name
  | .html => span "math-symbol" (Text.escapeMarkup name)

def layoutAssignment (style : Style) (target value : String) : String :=
  match style with
  | .text => target ++ " = " ++ value
  | .tex => target ++ ":=" ++ value
  | .html =>
    target
      ++ span ("math-operator math-assignment-operator math-variable-assignment-operator "
        ++ "math-binary-operator") "="
      ++ value

def statementSeparator : Style → String
  | .text => "\n"
  | .tex => "\\;\\;\n"
  | .html => span "math-separator" "<br />"

def layoutStatement (visible : Bool) (text : String) : String :=
  if visible then text else text ++ ";"

/-- The sign of an operator in TeX. Control words carry a trailing space, so that they never run
into an operand. -/
def texOperator (op function : String) : String :=
  if function = "multiply" then "\\cdot "
  else if function = "unequal" then "\\neq "
  else if function = "smallerEq" then "\\leq "
  else if function = "largerEq" then "\\geq "
  else if function = "and" then "\\wedge "
  else if function = "or" then "\\vee "
  else if function = "not" then "\\neg "
  else if function = "mod" then "\\mod "
  else op

def isWord (op : String) : Bool :=
  op.toList.all Text.isAlphabetic

def layoutUnary (style : Style) (op function operand : String) : String :=
  match style with
  | .text => if isWord op then op ++ " " ++ operand else op ++ operand
  | .tex => texOperator op function ++ operand
  | .html =>
    span "math-operator math-unary-operator math-lefthand-unary-operator" (Text.escapeMarkup op)
      ++ operand

/-- A binary operation from its operands as they are (`left`, `right`) and with the parentheses that
they need (`left'`, `right'`). A fraction bar groups both sides already, and so does a raised
exponent. -/
def layoutBinary (style : Style) (op function left left' right right' : String) : String :=
  match style with
  | .text => left' ++ " " ++ op ++ " " ++ right'
  | .tex =>
    if function = "divide" then "\\frac" ++ group left ++ group right
    else if function = "pow" then group left' ++ "^" ++ group right
    else left' ++ texOperator op function ++ right'
  | .html =>
    left'
      ++ span "math-operator math-binary-operator math-explicit-binary-operator"
        (Text.escapeMarkup op)
      ++ right'

def wrapOperand (mode : Parentheses) (style : Style) (function : String) (unary first : Bool)
    (operand : Formula) (text : String) : String :=
  parenthesizeIf (operandNeedsParentheses mode function unary first operand) style text

def layoutOperation (mode : Parentheses) (style : Style) (op function : String) :
    List Formula → List String → String
  | [operand], [text] =>
    layoutUnary style op function (wrapOperand mode style function true true operand text)
  | [left, right], [leftText, rightText] =>
    layoutBinary style op function
      leftText (wrapOperand mode style function false true left leftText)
      rightText (wrapOperand mode style function false false right rightText)
  | _, _ => ""

def layoutCall (style : Style) (function : String) (arguments : List String) : String :=
  match style with
  | .text => function ++ "(" ++ ", ".intercalate arguments ++ ")"
  | .tex => "\\mathrm" ++ group function ++ "\\left(" ++ ",".intercalate arguments ++ "\\right)"
  | .html =>
    span "math-function" (Text.escapeMarkup function) ++ span roundParenthesis "("
      ++ (span "math-separator" ",").intercalate arguments ++ span roundParenthesis ")"

/-- The branches of a conditional, each on lines of its own; `keyword` opens the next one. -/
def layoutBranches (keyword : String) : List String → List String → String
  | test :: tests, body :: bodies =>
    keyword ++ " " ++ test ++ "\n\t" ++ indent body ++ "\n" ++ layoutBranches "else if" tests bodies
  | [], [body] => "else\n\t" ++ indent body ++ "\n"
  | _, _ => ""

def layoutConditional (style : Style) (conditions blocks : List String) : String :=
  match style with
  | .text => layoutBranches "if" conditions blocks ++ "end"
  | .tex => ""
  | .html => ""

end Render

namespace Formula

open Render

mutual

def render (mode : Parentheses) (style : Style) : Formula → String
  | .constant value => layoutConstant style value
  | .symbol name => layoutSymbol style name
  | .assignment target value =>
    layoutAssignment style (render mode style target)
      (parenthesizeIf (looseNeedsParentheses mode value) style (render mode style value))
  | .block statements =>
    (statementSeparator style).intercalate (renderStatements mode style statements)
  | .operation op function operands =>
    layoutOperation mode style op function operands (renderAll mode style operands)
  | .parenthesis content =>
    match mode with
    | .keep => parenthesize style (render mode style content)
    | .all => render mode style content
  | .call function arguments => layoutCall style function (renderAll mode style arguments)
  | .conditional conditions blocks =>
    layoutConditional style (renderConditions mode style conditions) (renderAll mode style blocks)

def renderAll (mode : Parentheses) (style : Style) : List Formula → List String
  | [] => []
  | formula :: rest => render mode style formula :: renderAll mode style rest

def renderConditions (mode : Parentheses) (style : Style) : List Formula → List String
  | [] => []
  | test :: rest =>
    parenthesizeIf (looseNeedsParentheses mode test) style (render mode style test)
      :: renderConditions mode style rest

def renderStatements (mode : Parentheses) (style : Style) : List (Formula × Bool) → List String
  | [] => []
  | (statement, visible) :: rest =>
    layoutStatement visible (render mode style statement) :: renderStatements mode style rest

end

def display (formula : Formula) : String :=
  formula.render .keep .text

end Formula

end FormulaTree
