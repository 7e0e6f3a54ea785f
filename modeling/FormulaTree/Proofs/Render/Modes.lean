import FormulaTree.Formula.Children
import FormulaTree.Proofs.Render.Layouts

set_option autoImplicit false

namespace FormulaTree

namespace Render

def withoutBrackets (text : String) : String :=
  String.ofList (text.toList.filter fun c => c ≠ '(' ∧ c ≠ ')')

@[simp] theorem withoutBrackets_append (first second : String) :
    withoutBrackets (first ++ second) = withoutBrackets first ++ withoutBrackets second := by
  simp [withoutBrackets]

theorem withoutBrackets_intercalate (separator : String) (texts : List String) :
    withoutBrackets (separator.intercalate texts)
      = (withoutBrackets separator).intercalate (texts.map withoutBrackets) := by
  induction texts with
  | nil => rfl
  | cons first rest ih =>
    cases rest with
    | nil => simp
    | cons second rest =>
      rw [String.intercalate_cons_cons, withoutBrackets_append, withoutBrackets_append, ih]
      simp

theorem withoutBrackets_indent (text : String) :
    withoutBrackets (indent text) = indent (withoutBrackets text) := by
  rw [withoutBrackets, indent, indent, withoutBrackets, String.toList_ofList, String.toList_ofList]
  congr 1
  induction text.toList with
  | nil => rfl
  | cons c rest ih =>
    rw [List.flatMap_cons, List.filter_append, ih]
    by_cases line : c = '\n'
    · subst line
      rfl
    · by_cases bracket : c = '(' ∨ c = ')'
      · rcases bracket with rfl | rfl <;> rfl
      · rw [not_or] at bracket
        simp [line, bracket]

theorem withoutBrackets_parenthesizeIf (condition : Bool) (text : String) :
    withoutBrackets (parenthesizeIf condition .text text) = withoutBrackets text := by
  cases condition with
  | false => rfl
  | true =>
    have opened : withoutBrackets "(" = "" := rfl
    have closed : withoutBrackets ")" = "" := rfl
    simp [parenthesizeIf, parenthesize, opened, closed]

theorem withoutBrackets_layoutStatement (visible : Bool) (text : String) :
    withoutBrackets (layoutStatement visible text)
      = layoutStatement visible (withoutBrackets text) := by
  cases visible with
  | false => exact withoutBrackets_append text ";"
  | true => rfl

theorem withoutBrackets_layoutAssignment (target value : String) :
    withoutBrackets (layoutAssignment .text target value)
      = layoutAssignment .text (withoutBrackets target) (withoutBrackets value) := by
  have sign : withoutBrackets " = " = " = " := rfl
  simp only [layoutAssignment, withoutBrackets_append, sign]

theorem withoutBrackets_layoutBranches (keyword : String) (tests bodies : List String) :
    withoutBrackets (layoutBranches keyword tests bodies)
      = layoutBranches (withoutBrackets keyword) (tests.map withoutBrackets)
        (bodies.map withoutBrackets) := by
  have blank : withoutBrackets " " = " " := rfl
  have next : withoutBrackets "\n\t" = "\n\t" := rfl
  have ending : withoutBrackets "\n" = "\n" := rfl
  induction tests generalizing keyword bodies with
  | nil =>
    rcases bodies with _ | ⟨body, _ | ⟨second, bodies⟩⟩
    · rfl
    · have opening : withoutBrackets "else\n\t" = "else\n\t" := rfl
      simp only [layoutBranches, List.map_cons, List.map_nil, withoutBrackets_append,
        withoutBrackets_indent, opening, ending]
    · rfl
  | cons test tests ih =>
    cases bodies with
    | nil => rfl
    | cons body bodies =>
      have later : withoutBrackets "else if" = "else if" := rfl
      simp only [layoutBranches, List.map_cons, withoutBrackets_append, withoutBrackets_indent, ih,
        blank, next, ending, later]

/-- An operation whose operands are the same without their brackets, each set in brackets as its
mode asks. -/
theorem withoutBrackets_layoutOperation (op function : String) {operands : List Formula}
    {texts others : Formula → String}
    (same : ∀ operand ∈ operands, withoutBrackets (texts operand) = withoutBrackets (others operand))
    (mode other : Parentheses) :
    withoutBrackets (layoutOperation mode .text op function operands (operands.map texts))
      = withoutBrackets (layoutOperation other .text op function operands (operands.map others)) := by
  rcases operands with _ | ⟨left, _ | ⟨right, _ | ⟨third, rest⟩⟩⟩
  · rfl
  · have alone := same left (by simp)
    simp only [List.map_cons, List.map_nil, layoutOperation, layoutUnary, wrapOperand]
    split <;> simp only [withoutBrackets_append, withoutBrackets_parenthesizeIf, alone]
  · have first := same left (by simp)
    have second := same right (by simp)
    simp only [List.map_cons, List.map_nil, layoutOperation, layoutBinary, wrapOperand,
      withoutBrackets_append, withoutBrackets_parenthesizeIf, first, second]
  · rfl

end Render

namespace Formula

open Render

theorem withoutBrackets_renderAll {formulas : List Formula}
    (same : ∀ formula ∈ formulas, withoutBrackets (formula.render .keep .text)
      = withoutBrackets (formula.render .all .text)) :
    (renderAll .keep .text formulas).map withoutBrackets
      = (renderAll .all .text formulas).map withoutBrackets := by
  rw [renderAll_eq_map, renderAll_eq_map, List.map_map, List.map_map]
  exact List.map_congr_left same

/-- The two modes write the same text but for round brackets, whatever the formula. -/
theorem withoutBrackets_render (formula : Formula) :
    withoutBrackets (formula.render .keep .text) = withoutBrackets (formula.render .all .text) := by
  induction formula with
  | constant value => rfl
  | symbol name => rfl
  | assignment target value target_eq value_eq =>
    simp only [render, withoutBrackets_layoutAssignment, withoutBrackets_parenthesizeIf, target_eq,
      value_eq]
  | block statements parts =>
    rw [render, render, renderStatements_eq_map, renderStatements_eq_map,
      withoutBrackets_intercalate, withoutBrackets_intercalate, List.map_map, List.map_map]
    congr 1
    refine List.map_congr_left fun entry mem => ?_
    simp only [Function.comp_apply, withoutBrackets_layoutStatement, parts entry mem]
  | operation op function operands parts =>
    rw [render, render, renderAll_eq_map, renderAll_eq_map]
    exact withoutBrackets_layoutOperation op function parts .keep .all
  | parenthesis content content_eq =>
    have brackets := withoutBrackets_parenthesizeIf true (content.render .keep .text)
    exact brackets.trans content_eq
  | call function arguments parts =>
    simp only [render, layoutCall, withoutBrackets_append, withoutBrackets_intercalate,
      withoutBrackets_renderAll parts]
  | conditional conditions blocks tests bodies =>
    have testTexts : (renderConditions .keep .text conditions).map withoutBrackets
        = (renderConditions .all .text conditions).map withoutBrackets := by
      rw [renderConditions_eq_map, renderConditions_eq_map, List.map_map, List.map_map]
      refine List.map_congr_left fun test mem => ?_
      simp only [Function.comp_apply, withoutBrackets_parenthesizeIf, tests test mem]
    simp only [render, layoutConditional, withoutBrackets_append, withoutBrackets_layoutBranches,
      testTexts, withoutBrackets_renderAll bodies]

end Formula

end FormulaTree
