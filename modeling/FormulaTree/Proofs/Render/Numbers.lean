import FormulaTree.Proofs.Double.Layout
import FormulaTree.Proofs.Render.Phrase

set_option autoImplicit false

namespace FormulaTree.Render

structure Number where
  value : Float
  finite : value.isFinite = true

namespace Number

/-- Whether its text begins with a minus sign. -/
def negative (n : Number) : Bool :=
  Double.isNegative n.value

def abs (n : Number) : Number :=
  ⟨n.value.abs, (Double.fields_abs n.finite).1⟩

theorem negative_abs (n : Number) : n.abs.negative = false :=
  (Double.fields_abs n.finite).2.1

def word (n : Number) : Word where
  text := String.ofList (Value.numbers.magnitude n.value)
  nonempty := by
    rw [String.toList_ofList]
    exact Double.magnitude_ne_nil n.value
  letters := by
    rw [String.toList_ofList, List.all_eq_true]
    intro c mem
    rcases Double.mem_magnitude mem with rfl | digit
    · rfl
    · simp [isWordChar, Char.isAlphanum, digit]
  free := by
    intro same
    have letter : 'n' ∈ Value.numbers.magnitude n.value := by
      rw [← String.toList_ofList (l := Value.numbers.magnitude n.value), same]
      decide
    rcases Double.mem_magnitude letter with point | digit
    · exact absurd point (by decide)
    · exact absurd digit (by decide)

theorem eq_of_word {n m : Number} (signN : n.negative = false) (signM : m.negative = false)
    (same : n.word = m.word) : n = m := by
  have digits : Value.numbers.magnitude n.value = Value.numbers.magnitude m.value :=
    String.ofList_injective (congrArg Word.text same)
  have value : n.value = m.value := by
    rw [← Double.abs_of_not_negative n.finite signN, ← Double.abs_of_not_negative m.finite signM]
    exact Double.abs_eq_of_magnitude n.finite m.finite digits
  cases n
  cases m
  rw [mk.injEq]
  exact value

end Number

inductive Term where
  | number (n : Number)
  | parenthesis (content : Term)
  | minus (operand : Term)
  | power (base exponent : Term)

namespace Term

def formula : Term → Formula
  | .number n => .constant (.number n.value)
  | .parenthesis content => .parenthesis content.formula
  | .minus operand => .unary "-" "unaryMinus" operand.formula
  | .power base exponent => .binary "^" "pow" base.formula exponent.formula

def ofNumber (n : Number) : Term :=
  if n.negative then .minus (.number n.abs) else .number n

/-- The term without brackets, every sign an operator. -/
def bare : Term → Term
  | .number n => ofNumber n
  | .parenthesis content => content.bare
  | .minus operand => .minus operand.bare
  | .power base exponent => .power base.bare exponent.bare

def isMinus : Term → Bool
  | .minus _ => true
  | _ => false

def isOperation : Term → Bool
  | .minus _ | .power _ _ => true
  | _ => false

def bracketedIf (condition : Bool) (term : Term) : Term :=
  if condition then .parenthesis term else term

/-- A power as it stands in a text: a sign of its base stands before all of it. -/
def raise : Term → Term → Term
  | .minus base, exponent => .minus (.power base exponent)
  | base, exponent => .power base exponent

def explicit : Term → Term
  | .number n => ofNumber n
  | .parenthesis content => .parenthesis content.explicit
  | .minus operand => .minus (bracketedIf operand.isMinus operand.explicit)
  | .power base exponent =>
    raise (bracketedIf base.isOperation base.explicit)
      (bracketedIf exponent.isMinus exponent.explicit)

def phrase : Term → Phrase
  | .number n => .symbol n.word
  | .parenthesis content => .parenthesis content.phrase
  | .minus operand => .unary .minus operand.phrase
  | .power base exponent => .binary .pow base.phrase exponent.phrase

theorem phrase_bracketedIf (condition : Bool) (term : Term) :
    (bracketedIf condition term).phrase = Phrase.bracketedIf condition term.phrase := by
  cases condition <;> rfl

/-- Where the sign of a base stands does not show in the text. -/
theorem lexemes_raise (base exponent : Term) :
    (raise base exponent).phrase.lexemes
      = base.phrase.lexemes ++ .binary .pow :: exponent.phrase.lexemes := by
  cases base <;> rfl

theorem needs_minus (operand : Term) :
    operandNeedsParentheses .keep "unaryMinus" true true operand.formula
      = decide (operand.isMinus = true) := by
  cases operand <;> rfl

theorem needs_base (base : Term) :
    operandNeedsParentheses .keep "pow" false true base.formula
      = decide (base.isOperation = true) := by
  cases base <;> rfl

theorem needs_exponent (exponent : Term) :
    operandNeedsParentheses .keep "pow" false false exponent.formula
      = decide (exponent.isMinus = true) := by
  cases exponent <;> rfl

/-- The text of a term is that of the lexemes of its explicit form. -/
theorem render_formula (term : Term) :
    (term.formula.render .keep .text).toList
      = term.explicit.phrase.lexemes.flatMap Lexeme.chars := by
  induction term with
  | number n =>
    have written := Double.writeNumber_of_isFinite n.finite
    change (Value.writeNumber n.value).toList = (ofNumber n).phrase.lexemes.flatMap Lexeme.chars
    unfold ofNumber Number.negative
    by_cases negative : Double.isNegative n.value = true
    · rw [written, if_pos negative, if_pos negative]
      simp [phrase, Phrase.lexemes, Lexeme.chars, UnaryOperator.sign, Number.word,
        Number.abs, Double.magnitude_abs n.finite]
    · rw [written, if_neg negative, if_neg negative]
      simp [phrase, Phrase.lexemes, Lexeme.chars, Number.word]
  | parenthesis content ih =>
    simp [formula, Formula.render, parenthesize, explicit, phrase, Phrase.lexemes, Lexeme.chars, ih]
  | minus operand ih =>
    simp only [formula, Formula.unary, Formula.render, Formula.renderAll, layoutOperation]
    have written := Phrase.wrapOperand_text (needs_minus operand) ih
    rw [← phrase_bracketedIf] at written
    refine (Phrase.layoutUnary_text .minus "unaryMinus" _).trans ?_
    rw [written]
    rfl
  | power base exponent ihBase ihExponent =>
    have left := Phrase.wrapOperand_text (needs_base base) ihBase
    have right := Phrase.wrapOperand_text (needs_exponent exponent) ihExponent
    rw [← phrase_bracketedIf] at left right
    simp only [formula, Formula.binary, Formula.render, Formula.renderAll, layoutOperation,
      layoutBinary, String.toList_append, left, right]
    simp [explicit, lexemes_raise, Lexeme.chars, BinaryOperator.sign]

end Term

end FormulaTree.Render
