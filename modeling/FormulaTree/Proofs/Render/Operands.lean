import FormulaTree.Proofs.Formula.Sound
import FormulaTree.Proofs.Render.Layouts

set_option autoImplicit false

namespace FormulaTree

namespace Render

def operand? (mode : Parentheses) (style : Style) (function : String) (unary : Bool)
    (operands : List Formula) (texts : List String) (i : Nat) : Option String := do
  let operand ← operands[i]?
  let text ← texts[i]?
  some (wrapOperand mode style function unary (i = 0) operand text)

/-- An operation from its operands and their texts, looked up by index. -/
def layoutOperation? (mode : Parentheses) (style : Style) (op function : String)
    (operands : List Formula) (texts : List String) : Option String :=
  if operands.length = 1 then do
    let operand ← operand? mode style function true operands texts 0
    some (layoutUnary style op function operand)
  else do
    let left ← texts[0]?
    let left' ← operand? mode style function false operands texts 0
    let right ← texts[1]?
    let right' ← operand? mode style function false operands texts 1
    some (layoutBinary style op function left left' right right')

theorem layoutOperation?_eq {operands : List Formula} {texts : List String}
    (count : operands.length = 1 ∨ operands.length = 2) (same : texts.length = operands.length)
    (mode : Parentheses) (style : Style) (op function : String) :
    layoutOperation? mode style op function operands texts
      = some (layoutOperation mode style op function operands texts) := by
  rcases count with one | two
  · obtain ⟨operand, rfl⟩ := List.length_eq_one_iff.1 one
    obtain ⟨text, rfl⟩ := List.length_eq_one_iff.1 (same.trans one)
    simp [layoutOperation?, operand?, layoutOperation]
  · obtain ⟨left, right, rfl⟩ := List.length_eq_two.1 two
    obtain ⟨leftText, rightText, rfl⟩ := List.length_eq_two.1 (same.trans two)
    simp [layoutOperation?, operand?, layoutOperation]

end Render

namespace Formula

open Render

mutual

def render? (mode : Parentheses) (style : Style) : Formula → Option String
  | .constant value => some (layoutConstant style value)
  | .symbol name => some (layoutSymbol style name)
  | .assignment target value => do
    let left ← render? mode style target
    let right ← render? mode style value
    some (layoutAssignment style left
      (parenthesizeIf (looseNeedsParentheses mode value) style right))
  | .block statements => do
    let texts ← renderStatements? mode style statements
    some ((statementSeparator style).intercalate texts)
  | .operation op function operands => do
    let texts ← renderAll? mode style operands
    layoutOperation? mode style op function operands texts
  | .parenthesis content => do
    let text ← render? mode style content
    match mode with
    | .keep => some (parenthesize style text)
    | .all => some text
  | .call function arguments => do
    let texts ← renderAll? mode style arguments
    some (layoutCall style function texts)
  | .conditional conditions blocks => do
    let tests ← renderConditions? mode style conditions
    let bodies ← renderAll? mode style blocks
    some (layoutConditional style tests bodies)

def renderAll? (mode : Parentheses) (style : Style) : List Formula → Option (List String)
  | [] => some []
  | formula :: rest => do
    let text ← render? mode style formula
    let texts ← renderAll? mode style rest
    some (text :: texts)

def renderConditions? (mode : Parentheses) (style : Style) : List Formula → Option (List String)
  | [] => some []
  | test :: rest => do
    let text ← render? mode style test
    let texts ← renderConditions? mode style rest
    some (parenthesizeIf (looseNeedsParentheses mode test) style text :: texts)

def renderStatements? (mode : Parentheses) (style : Style) :
    List (Formula × Bool) → Option (List String)
  | [] => some []
  | (statement, visible) :: rest => do
    let text ← render? mode style statement
    let texts ← renderStatements? mode style rest
    some (layoutStatement visible text :: texts)

end

mutual

theorem render?_eq (mode : Parentheses) (style : Style) : ∀ formula : Formula, formula.Sound →
    formula.render? mode style = some (formula.render mode style)
  | .constant value, _ => rfl
  | .symbol name, _ => rfl
  | .assignment target value, h => by
    obtain ⟨-, ht, hv⟩ := sound_assignment_iff.1 h
    simp [render?, render, render?_eq mode style target ht, render?_eq mode style value hv]
  | .block statements, h => by
    obtain ⟨-, hs⟩ := sound_block_iff.1 h
    simp [render?, render, renderStatements?_eq mode style statements hs]
  | .operation op function operands, h => by
    obtain ⟨count, ho⟩ := sound_operation_iff.1 h
    have same : (renderAll mode style operands).length = operands.length := by
      rw [renderAll_eq_map, List.length_map]
    simp [render?, render, renderAll?_eq mode style operands ho, layoutOperation?_eq count same]
  | .parenthesis content, h => by
    have hc := sound_parenthesis_iff.1 h
    cases mode <;> simp [render?, render, render?_eq _ style content hc]
  | .call function arguments, h => by
    have ha := sound_call_iff.1 h
    simp [render?, render, renderAll?_eq mode style arguments ha]
  | .conditional conditions blocks, h => by
    obtain ⟨-, hc, hb⟩ := sound_conditional_iff.1 h
    simp [render?, render, renderConditions?_eq mode style conditions hc,
      renderAll?_eq mode style blocks hb]

theorem renderAll?_eq (mode : Parentheses) (style : Style) : ∀ formulas : List Formula,
    (∀ formula ∈ formulas, formula.Sound) →
    renderAll? mode style formulas = some (renderAll mode style formulas)
  | [], _ => rfl
  | formula :: rest, h => by
    obtain ⟨first, later⟩ := List.forall_mem_cons.1 h
    simp [renderAll?, renderAll, render?_eq mode style formula first,
      renderAll?_eq mode style rest later]

theorem renderConditions?_eq (mode : Parentheses) (style : Style) : ∀ conditions : List Formula,
    (∀ condition ∈ conditions, condition.Sound) →
    renderConditions? mode style conditions = some (renderConditions mode style conditions)
  | [], _ => rfl
  | test :: rest, h => by
    obtain ⟨first, later⟩ := List.forall_mem_cons.1 h
    simp [renderConditions?, renderConditions, render?_eq mode style test first,
      renderConditions?_eq mode style rest later]

theorem renderStatements?_eq (mode : Parentheses) (style : Style) :
    ∀ statements : List (Formula × Bool), (∀ entry ∈ statements, entry.1.Sound) →
    renderStatements? mode style statements = some (renderStatements mode style statements)
  | [], _ => rfl
  | (statement, visible) :: rest, h => by
    obtain ⟨first, later⟩ := List.forall_mem_cons.1 h
    simp [renderStatements?, renderStatements, render?_eq mode style statement first,
      renderStatements?_eq mode style rest later]

end

end Formula

end FormulaTree
