import FormulaTree.Render.Formula

set_option autoImplicit false

namespace FormulaTree

namespace Render

theorem intercalate_elim {motive : String → Prop} (empty : motive "")
    (append : ∀ {first second : String}, motive first → motive second → motive (first ++ second))
    {separator : String} {texts : List String} (between : motive separator)
    (all : ∀ text ∈ texts, motive text) : motive (separator.intercalate texts) := by
  induction texts with
  | nil => exact empty
  | cons first rest ih =>
    obtain ⟨here, later⟩ := List.forall_mem_cons.1 all
    cases rest with
    | nil => simpa using here
    | cons second rest =>
      rw [String.intercalate_cons_cons]
      exact append (append here between) (ih later)

end Render

namespace Formula

open Render

variable (mode : Parentheses) (style : Style)

theorem renderAll_eq_map (formulas : List Formula) :
    renderAll mode style formulas = formulas.map (render mode style) := by
  induction formulas with
  | nil => rfl
  | cons formula rest ih => rw [renderAll, ih, List.map_cons]

theorem renderConditions_eq_map (conditions : List Formula) :
    renderConditions mode style conditions = conditions.map fun test =>
      parenthesizeIf (looseNeedsParentheses mode test) style (test.render mode style) := by
  induction conditions with
  | nil => rfl
  | cons test rest ih => rw [renderConditions, ih, List.map_cons]

theorem renderStatements_eq_map (statements : List (Formula × Bool)) :
    renderStatements mode style statements
      = statements.map fun entry => layoutStatement entry.2 (entry.1.render mode style) := by
  induction statements with
  | nil => rfl
  | cons entry rest ih =>
    obtain ⟨statement, visible⟩ := entry
    rw [renderStatements, ih, List.map_cons]

/-- Of an operand, only its precedence decides whether it is set in parentheses. -/
theorem wrapOperand_congr {operand other : Formula}
    (same : precedence mode other = precedence mode operand) (function : String)
    (unary first : Bool) (text : String) :
    wrapOperand mode style function unary first other text
      = wrapOperand mode style function unary first operand text := by
  rw [wrapOperand, wrapOperand, operandNeedsParentheses, operandNeedsParentheses, same]

theorem layoutOperation_congr {change : Formula → Formula} {operands : List Formula}
    (same : ∀ operand ∈ operands, precedence mode (change operand) = precedence mode operand)
    (op function : String) (texts : List String) :
    layoutOperation mode style op function (operands.map change) texts
      = layoutOperation mode style op function operands texts := by
  rcases operands with _ | ⟨left, _ | ⟨right, _ | ⟨third, rest⟩⟩⟩
  · rfl
  · have alone := same left (by simp)
    rcases texts with _ | ⟨text, _ | ⟨next, later⟩⟩
    · rfl
    · simp [layoutOperation, wrapOperand_congr mode style alone]
    · rfl
  · have first := same left (by simp)
    have second := same right (by simp)
    rcases texts with _ | ⟨leftText, _ | ⟨rightText, _ | ⟨next, later⟩⟩⟩
    · rfl
    · rfl
    · simp [layoutOperation, wrapOperand_congr mode style first,
        wrapOperand_congr mode style second]
    · rfl
  · rfl

theorem layoutOperation_elim {motive : String → Prop} (op function : String)
    {operands : List Formula} {texts : Formula → String} (empty : motive "")
    (unary : ∀ operand ∈ operands, motive (layoutUnary style op function
      (wrapOperand mode style function true true operand (texts operand))))
    (binary : ∀ left ∈ operands, ∀ right ∈ operands, motive (layoutBinary style op function
      (texts left) (wrapOperand mode style function false true left (texts left))
      (texts right) (wrapOperand mode style function false false right (texts right)))) :
    motive (layoutOperation mode style op function operands (operands.map texts)) := by
  rcases operands with _ | ⟨left, _ | ⟨right, _ | ⟨third, rest⟩⟩⟩
  · exact empty
  · exact unary left (by simp)
  · exact binary left (by simp) right (by simp)
  · exact empty

end Formula

end FormulaTree
