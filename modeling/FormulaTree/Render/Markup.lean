import FormulaTree.Render.Options
import FormulaTree.Text.Entities

set_option autoImplicit false

namespace FormulaTree.Render

inductive Style where
  | text
  | tex
  | html
deriving DecidableEq, Repr

def span (classes content : String) : String :=
  "<span class=\"" ++ classes ++ "\">" ++ content ++ "</span>"

def group (content : String) : String :=
  "\x7b" ++ content ++ "\x7d"

def roundParenthesis : String := "math-parenthesis math-round-parenthesis"

def parenthesize (style : Style) (inner : String) : String :=
  match style with
  | .text => "(" ++ inner ++ ")"
  | .tex => "\\left(" ++ inner ++ "\\right)"
  | .html => span roundParenthesis "(" ++ inner ++ span roundParenthesis ")"

def parenthesizeIf (condition : Bool) (style : Style) (inner : String) : String :=
  if condition then parenthesize style inner else inner

def indent (text : String) : String :=
  String.ofList (text.toList.flatMap fun c => if c = '\n' then ['\n', '\t'] else [c])

end FormulaTree.Render
