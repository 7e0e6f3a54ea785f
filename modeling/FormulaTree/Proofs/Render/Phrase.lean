import FormulaTree.Proofs.Render.Layouts

set_option autoImplicit false

namespace FormulaTree.Render

def isWordChar (c : Char) : Bool :=
  c.isAlphanum || c = '_' || c = '.'

/-- A name that cannot be taken for the sign of a unary operator. The signs between two operands may
be names, since blanks stand around them. -/
structure Word where
  text : String
  nonempty : text.toList ≠ []
  letters : text.toList.all isWordChar = true
  free : text ≠ "not"
deriving DecidableEq

namespace Word

def a : Word := ⟨"a", by decide, by decide, by decide⟩
def b : Word := ⟨"b", by decide, by decide, by decide⟩
def c : Word := ⟨"c", by decide, by decide, by decide⟩

end Word

inductive BinaryOperator where
  | or
  | and
  | equal
  | unequal
  | smaller
  | larger
  | smallerEq
  | largerEq
  | add
  | subtract
  | multiply
  | divide
  | modulo
  | pow
deriving DecidableEq

namespace BinaryOperator

def sign : BinaryOperator → String
  | or => "or"
  | and => "and"
  | equal => "=="
  | unequal => "!="
  | smaller => "<"
  | larger => ">"
  | smallerEq => "<="
  | largerEq => ">="
  | add => "+"
  | subtract => "-"
  | multiply => "*"
  | divide => "/"
  | modulo => "mod"
  | pow => "^"

def function : BinaryOperator → String
  | or => "or"
  | and => "and"
  | equal => "equal"
  | unequal => "unequal"
  | smaller => "smaller"
  | larger => "larger"
  | smallerEq => "smallerEq"
  | largerEq => "largerEq"
  | add => "add"
  | subtract => "subtract"
  | multiply => "multiply"
  | divide => "divide"
  | modulo => "mod"
  | pow => "pow"

def level : BinaryOperator → Nat
  | or => 1
  | and => 2
  | equal | unequal | smaller | larger | smallerEq | largerEq => 3
  | add | subtract => 4
  | multiply | divide | modulo => 5
  | pow => 7

/-- How strong a left operand has to be to go without brackets. -/
def leftFloor (o : BinaryOperator) : Nat :=
  if o = pow then o.level + 1 else o.level

/-- How strong a right operand has to be to go without brackets. -/
def rightFloor (o : BinaryOperator) : Nat :=
  if o ∈ [add, multiply, and, or, pow] then o.level else o.level + 1

end BinaryOperator

inductive UnaryOperator where
  | minus
  | plus
  | not
deriving DecidableEq

namespace UnaryOperator

def sign : UnaryOperator → String
  | minus => "-"
  | plus => "+"
  | not => "not"

def function : UnaryOperator → String
  | minus => "unaryMinus"
  | plus => "unaryPlus"
  | not => "not"

def level : Nat := 6

def floor : Nat := 7

end UnaryOperator

/-- The strength of what holds together by itself. -/
def closedStrength : Nat := 8

inductive Phrase where
  | symbol (name : Word)
  | call (function : Word) (arguments : List Phrase)
  | parenthesis (content : Phrase)
  | unary (o : UnaryOperator) (operand : Phrase)
  | binary (o : BinaryOperator) (left right : Phrase)

namespace Phrase

mutual

def formula : Phrase → Formula
  | .symbol name => .symbol name.text
  | .call function arguments => .call function.text (formulas arguments)
  | .parenthesis content => .parenthesis content.formula
  | .unary o operand => .unary o.sign o.function operand.formula
  | .binary o left right => .binary o.sign o.function left.formula right.formula

def formulas : List Phrase → List Formula
  | [] => []
  | phrase :: rest => phrase.formula :: formulas rest

end

def strength : Phrase → Nat
  | .symbol _ => closedStrength
  | .call _ _ => closedStrength
  | .parenthesis _ => closedStrength
  | .unary _ _ => UnaryOperator.level
  | .binary o _ _ => o.level

def bracketedIf (condition : Prop) [Decidable condition] (phrase : Phrase) : Phrase :=
  if condition then .parenthesis phrase else phrase

mutual

/-- The phrase with all the brackets that its text has. -/
def explicit : Phrase → Phrase
  | .symbol name => .symbol name
  | .call function arguments => .call function (explicitAll arguments)
  | .parenthesis content => .parenthesis content.explicit
  | .unary o operand =>
    .unary o (bracketedIf (operand.strength < UnaryOperator.floor) operand.explicit)
  | .binary o left right =>
    .binary o (bracketedIf (left.strength < o.leftFloor) left.explicit)
      (bracketedIf (right.strength < o.rightFloor) right.explicit)

def explicitAll : List Phrase → List Phrase
  | [] => []
  | phrase :: rest => phrase.explicit :: explicitAll rest

end

end Phrase

inductive Lexeme where
  | word (name : Word)
  /-- The name of a function with the parenthesis that opens its arguments. -/
  | call (function : Word)
  | unary (o : UnaryOperator)
  | binary (o : BinaryOperator)
  | opened
  | closed
  | comma
deriving DecidableEq

def Lexeme.chars : Lexeme → List Char
  | .word name => name.text.toList
  | .call function => function.text.toList ++ ['(']
  | .unary .not => ['n', 'o', 't', ' ']
  | .unary o => o.sign.toList
  | .binary o => ' ' :: o.sign.toList ++ [' ']
  | .opened => ['(']
  | .closed => [')']
  | .comma => [',', ' ']

namespace Phrase

mutual

/-- The lexemes of a phrase, with no brackets but its own. -/
def lexemes : Phrase → List Lexeme
  | .symbol name => [.word name]
  | .call function arguments => .call function :: (listed arguments ++ [.closed])
  | .parenthesis content => .opened :: (content.lexemes ++ [.closed])
  | .unary o operand => .unary o :: operand.lexemes
  | .binary o left right => left.lexemes ++ .binary o :: right.lexemes

def listed : List Phrase → List Lexeme
  | [] => []
  | phrase :: rest => phrase.lexemes ++ listedAfter rest

def listedAfter : List Phrase → List Lexeme
  | [] => []
  | phrase :: rest => .comma :: (phrase.lexemes ++ listedAfter rest)

end

/-- Induction over phrases, where a call may assume the property of all its arguments. -/
@[elab_as_elim, induction_eliminator]
theorem parts_induction {motive : Phrase → Prop}
    (symbol : ∀ name, motive (.symbol name))
    (call : ∀ function arguments, (∀ argument ∈ arguments, motive argument) →
      motive (.call function arguments))
    (parenthesis : ∀ content, motive content → motive (.parenthesis content))
    (unary : ∀ o operand, motive operand → motive (.unary o operand))
    (binary : ∀ o left right, motive left → motive right → motive (.binary o left right))
    (phrase : Phrase) : motive phrase :=
  @Phrase.rec motive (fun phrases => ∀ phrase ∈ phrases, motive phrase)
    symbol call parenthesis unary binary
    (fun _ mem => nomatch mem) (fun _ _ first rest => List.forall_mem_cons.2 ⟨first, rest⟩) phrase

theorem formulas_eq_map (phrases : List Phrase) : formulas phrases = phrases.map formula := by
  induction phrases with
  | nil => rfl
  | cons phrase rest ih => rw [formulas, ih, List.map_cons]

theorem explicitAll_eq_map (phrases : List Phrase) :
    explicitAll phrases = phrases.map explicit := by
  induction phrases with
  | nil => rfl
  | cons phrase rest ih => rw [explicitAll, ih, List.map_cons]

theorem listedAfter_eq_flatMap (phrases : List Phrase) :
    listedAfter phrases = phrases.flatMap fun phrase => .comma :: phrase.lexemes := by
  induction phrases with
  | nil => rfl
  | cons phrase rest ih => rw [listedAfter, ih, List.flatMap_cons, List.cons_append]

@[simp] theorem strength_explicit (phrase : Phrase) :
    phrase.explicit.strength = phrase.strength := by
  cases phrase <;> rfl

theorem precedence_formula (phrase : Phrase) :
    precedence .keep phrase.formula
      = if phrase.strength = closedStrength then none else some phrase.strength := by
  cases phrase with
  | unary o operand => cases o <;> rfl
  | binary o left right => cases o <;> rfl
  | _ => rfl

end Phrase

theorem operatorPrecedence_unary (o : UnaryOperator) :
    operatorPrecedence o.function = some UnaryOperator.level := by
  cases o <;> rfl

theorem operatorPrecedence_binary (o : BinaryOperator) :
    operatorPrecedence o.function = some o.level := by
  cases o <;> rfl

theorem groupsRight_function (o : BinaryOperator) :
    groupsRight o.function = decide (o ∈ [.add, .multiply, .and, .or, .pow]) := by
  cases o <;> rfl

theorem function_eq_pow_iff (o : BinaryOperator) : o.function = "pow" ↔ o = .pow := by
  cases o <;> decide

namespace BinaryOperator

theorem level_pos (o : BinaryOperator) : 0 < o.level := by
  cases o <;> decide

theorem level_le_leftFloor (o : BinaryOperator) : o.level ≤ o.leftFloor := by
  unfold leftFloor
  split <;> omega

theorem level_le_rightFloor (o : BinaryOperator) : o.level ≤ o.rightFloor := by
  unfold rightFloor
  split <;> omega

theorem level_lt_leftFloor_iff (o : BinaryOperator) : o.level < o.leftFloor ↔ o = pow := by
  cases o <;> decide

theorem level_lt_rightFloor_iff (o : BinaryOperator) :
    o.level < o.rightFloor ↔ o ∉ [add, multiply, and, or, pow] := by
  cases o <;> decide

theorem floors_le_closedStrength (o : BinaryOperator) :
    o.leftFloor ≤ closedStrength ∧ o.rightFloor ≤ closedStrength := by
  cases o <;> decide

theorem eq_pow_of_level (o : BinaryOperator) (same : o.level = pow.level) : o = pow := by
  cases o <;> first | rfl | cases same

end BinaryOperator

theorem operandNeedsParentheses_unary (o : UnaryOperator) (phrase : Phrase) :
    operandNeedsParentheses .keep o.function true true phrase.formula
      = decide (phrase.strength < UnaryOperator.floor) := by
  rw [operandNeedsParentheses, Phrase.precedence_formula, operatorPrecedence_unary]
  by_cases closed : phrase.strength = closedStrength
  · rw [if_pos closed, closed]
    rfl
  · rw [if_neg closed]
    by_cases same : phrase.strength = UnaryOperator.level
    · simp [same, UnaryOperator.level, UnaryOperator.floor]
    · have below :
          phrase.strength < UnaryOperator.level ↔ phrase.strength < UnaryOperator.floor := by
        simp only [UnaryOperator.level, UnaryOperator.floor] at *
        omega
      simp [same, below]

theorem operandNeedsParentheses_left (o : BinaryOperator) (phrase : Phrase) :
    operandNeedsParentheses .keep o.function false true phrase.formula
      = decide (phrase.strength < o.leftFloor) := by
  rw [operandNeedsParentheses, Phrase.precedence_formula, operatorPrecedence_binary]
  by_cases closed : phrase.strength = closedStrength
  · have high := o.floors_le_closedStrength.1
    simp [closed, high]
  · rw [if_neg closed]
    by_cases same : phrase.strength = o.level
    · simp [same, function_eq_pow_iff, o.level_lt_leftFloor_iff]
    · have below : phrase.strength < o.level ↔ phrase.strength < o.leftFloor := by
        unfold BinaryOperator.leftFloor
        split <;> omega
      simp [same, below]

theorem operandNeedsParentheses_right (o : BinaryOperator) (phrase : Phrase) :
    operandNeedsParentheses .keep o.function false false phrase.formula
      = decide (phrase.strength < o.rightFloor) := by
  rw [operandNeedsParentheses, Phrase.precedence_formula, operatorPrecedence_binary]
  by_cases closed : phrase.strength = closedStrength
  · have high := o.floors_le_closedStrength.2
    simp [closed, high]
  · rw [if_neg closed]
    by_cases same : phrase.strength = o.level
    · simp [same, groupsRight_function, o.level_lt_rightFloor_iff]
    · have below : phrase.strength < o.level ↔ phrase.strength < o.rightFloor := by
        unfold BinaryOperator.rightFloor
        split <;> omega
      simp [same, below]

namespace Phrase

theorem wrapOperand_text {function text : String} {unary first : Bool} {operand : Formula}
    {phrase : Phrase} {weak : Prop} [Decidable weak]
    (needs : operandNeedsParentheses .keep function unary first operand = decide weak)
    (written : text.toList = phrase.lexemes.flatMap Lexeme.chars) :
    (wrapOperand .keep .text function unary first operand text).toList
      = (bracketedIf weak phrase).lexemes.flatMap Lexeme.chars := by
  rw [wrapOperand, needs]
  by_cases bracketed : weak
  · simp [bracketed, bracketedIf, parenthesizeIf, parenthesize, lexemes, Lexeme.chars, written]
  · simp [bracketed, bracketedIf, parenthesizeIf, written]

theorem layoutUnary_text (o : UnaryOperator) (function operand : String) :
    (layoutUnary .text o.sign function operand).toList
      = Lexeme.chars (.unary o) ++ operand.toList := by
  cases o with
  | minus => simp [layoutUnary, UnaryOperator.sign, Lexeme.chars, show isWord "-" = false from rfl]
  | plus => simp [layoutUnary, UnaryOperator.sign, Lexeme.chars, show isWord "+" = false from rfl]
  | not =>
    have word : isWord "not" = true := by decide
    simp [layoutUnary, UnaryOperator.sign, Lexeme.chars, word]

theorem intercalate_listed (arguments : List Phrase) :
    [',', ' '].intercalate
        (arguments.map fun argument => argument.lexemes.flatMap Lexeme.chars)
      = (listed arguments).flatMap Lexeme.chars := by
  cases arguments with
  | nil => rfl
  | cons first rest =>
    rw [listed, listedAfter_eq_flatMap]
    induction rest generalizing first with
    | nil => simp
    | cons second rest ih =>
      have texts := ih second
      rw [List.map_cons] at texts
      rw [List.map_cons, List.map_cons, List.intercalate_cons_cons, texts]
      simp [Lexeme.chars]

/-- The text of a phrase is that of its lexemes, all brackets written out. -/
theorem render_formula (phrase : Phrase) :
    (phrase.formula.render .keep .text).toList
      = phrase.explicit.lexemes.flatMap Lexeme.chars := by
  induction phrase with
  | symbol name => simp [formula, Formula.render, layoutSymbol, explicit, lexemes, Lexeme.chars]
  | call function arguments ih =>
    have texts : (arguments.map fun argument => argument.formula.render .keep .text).map
          String.toList
        = (arguments.map explicit).map fun argument => argument.lexemes.flatMap Lexeme.chars := by
      rw [List.map_map, List.map_map]
      exact List.map_congr_left ih
    simp only [formula, Formula.render, Formula.renderAll_eq_map, formulas_eq_map, explicit,
      explicitAll_eq_map, lexemes, layoutCall, List.flatMap_cons, List.flatMap_append,
      ← intercalate_listed, ← texts, String.toList_append, String.toList_intercalate, List.map_map]
    simp [Lexeme.chars]
    rfl
  | parenthesis content ih =>
    simp [formula, Formula.render, parenthesize, explicit, lexemes, Lexeme.chars, ih]
  | unary o operand ih =>
    simp only [formula, Formula.unary, Formula.render, Formula.renderAll, layoutOperation]
    rw [layoutUnary_text, wrapOperand_text (operandNeedsParentheses_unary o operand) ih]
    simp [explicit, lexemes]
  | binary o left right ihLeft ihRight =>
    simp only [formula, Formula.binary, Formula.render, Formula.renderAll, layoutOperation,
      layoutBinary,
      String.toList_append, wrapOperand_text (operandNeedsParentheses_left o left) ihLeft,
      wrapOperand_text (operandNeedsParentheses_right o right) ihRight]
    simp [explicit, lexemes, Lexeme.chars]

end Phrase

end FormulaTree.Render
