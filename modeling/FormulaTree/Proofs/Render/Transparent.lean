import FormulaTree.Proofs.Formula.Elimination
import FormulaTree.Proofs.Render.Layouts

set_option autoImplicit false

namespace FormulaTree.Formula

open Render

section bare

mutual

/-- The formula with the content of every parenthesis, at any depth, in its place. -/
def bare : Formula → Formula
  | .constant value => .constant value
  | .symbol name => .symbol name
  | .assignment target value => .assignment (bare target) (bare value)
  | .block statements => .block (bareStatements statements)
  | .operation op function operands => .operation op function (bareAll operands)
  | .parenthesis content => bare content
  | .call function arguments => .call function (bareAll arguments)
  | .conditional conditions blocks => .conditional (bareAll conditions) (bareAll blocks)

def bareAll : List Formula → List Formula
  | [] => []
  | formula :: rest => bare formula :: bareAll rest

def bareStatements : List (Formula × Bool) → List (Formula × Bool)
  | [] => []
  | (statement, visible) :: rest => (bare statement, visible) :: bareStatements rest

end

theorem bareAll_eq_map (formulas : List Formula) : bareAll formulas = formulas.map bare := by
  induction formulas with
  | nil => rfl
  | cons formula rest ih => rw [bareAll, ih, List.map_cons]

theorem bareStatements_eq_map (statements : List (Formula × Bool)) :
    bareStatements statements = statements.map fun entry => (entry.1.bare, entry.2) := by
  induction statements with
  | nil => rfl
  | cons entry rest ih =>
    obtain ⟨statement, visible⟩ := entry
    rw [bareStatements, ih, List.map_cons]

theorem eq_map_bare_of_forall₂ {formulas parts : List Formula}
    (same : List.Forall₂ (fun formula part => part = formula.bare) formulas parts) :
    parts = formulas.map bare := by
  induction same with
  | nil => rfl
  | cons first _ ih => rw [List.map_cons, first, ih]

theorem unwrapped_eq_bare {formula current : Formula} {parts : List Formula} (shape : formula.Shape)
    (became : List.Forall₂ (fun child part => part = child.2.bare) formula.children parts)
    (made : formula.withParts parts = .ok current) : current.unwrapped = formula.bare := by
  have same : List.Forall₂ (fun formula part => part = formula.bare)
      (formula.children.map Prod.snd) parts := List.forall₂_map_left_iff.2 became
  have taken := eq_map_bare_of_forall₂ same
  cases formula with
  | constant value =>
    cases made
    rfl
  | symbol name =>
    cases made
    rfl
  | assignment target value =>
    subst taken
    obtain ⟨rfl, -⟩ := checkedAssignment_shape made
    rfl
  | block statements =>
    rw [children, map_snd_numbered, List.map_map] at taken
    subst taken
    obtain ⟨rfl, -⟩ := checkedBlock_shape made
    rw [bare, bareStatements_eq_map, List.zip_map']
    rfl
  | operation op function operands =>
    rw [children, map_snd_numbered] at taken
    obtain ⟨rfl, -⟩ := checkedOperation_shape made
    rw [bare, bareAll_eq_map, ← taken]
    rfl
  | parenthesis content =>
    subst taken
    cases made
    rfl
  | call function arguments =>
    rw [children, map_snd_numbered] at taken
    cases made
    rw [bare, bareAll_eq_map, ← taken]
    rfl
  | conditional conditions blocks =>
    obtain ⟨rfl, -⟩ := checkedConditional_shape made
    obtain ⟨tests, bodies⟩ := forall₂_unbraid shape.2 same
    rw [bare, bareAll_eq_map, bareAll_eq_map, ← eq_map_bare_of_forall₂ tests,
      ← eq_map_bare_of_forall₂ bodies]
    rfl

/-- The bare form is what a transformation gives that takes every parenthesis away. -/
theorem transform_unwrapped {formula : Formula} (h : formula.WellFormed) :
    formula.transform (m := Except Error) (fun visit => .ok visit.formula.unwrapped)
      = .ok formula.bare := by
  obtain ⟨result, transformed⟩ := @exists_transform unwrapped (fun _ => rfl) formula h
  have rewritten := transformed
  rw [Formula.transform, transformAt_eq_rewrite h] at rewritten
  have same : result = formula.bare := by
    refine rewrite_relates (fun formula answer => answer = formula.bare) ?_ h rewritten
    rintro formula current _ parts address parent shape became made ⟨⟩
    exact unwrapped_eq_bare shape became made
  rw [transformed, same]

theorem bare_without_parentheses {formula : Formula} (h : formula.WellFormed) :
    formula.bare.Without fun node => node.kind = .parenthesis :=
  filter_eq_nil_iff.1 (unwrapped_eliminates.transform h (transform_unwrapped h))

end bare

theorem precedence_bare (formula : Formula) :
    precedence .all formula.bare = precedence .all formula := by
  induction formula with
  | parenthesis content ih => rw [bare, ih, precedence]
  | _ => rfl

theorem render_bare_eq (style : Style) (formula : Formula) :
    formula.bare.render .all style = formula.render .all style := by
  induction formula with
  | constant value => rfl
  | symbol name => rfl
  | assignment target value target_eq value_eq =>
    rw [bare, render, render, target_eq, value_eq]
    rfl
  | block statements parts =>
    rw [bare, render, render, renderStatements_eq_map, renderStatements_eq_map,
      bareStatements_eq_map, List.map_map]
    congr 1
    refine List.map_congr_left fun entry mem => ?_
    rw [Function.comp_apply, parts entry mem]
  | operation op function operands parts =>
    have texts : renderAll .all style (operands.map bare) = renderAll .all style operands := by
      rw [renderAll_eq_map, renderAll_eq_map, List.map_map]
      exact List.map_congr_left parts
    rw [bare, render, render, bareAll_eq_map, texts]
    exact layoutOperation_congr .all style (fun operand _ => precedence_bare operand) ..
  | parenthesis content content_eq => rw [bare, content_eq, render]
  | call function arguments parts =>
    rw [bare, render, render, bareAll_eq_map, renderAll_eq_map, renderAll_eq_map, List.map_map]
    congr 1
    exact List.map_congr_left parts
  | conditional conditions blocks tests bodies =>
    rw [bare, render, render, bareAll_eq_map, bareAll_eq_map, renderConditions_eq_map,
      renderConditions_eq_map, renderAll_eq_map, renderAll_eq_map, List.map_map, List.map_map]
    congr 1
    · refine List.map_congr_left fun test mem => ?_
      rw [Function.comp_apply, tests test mem]
      rfl
    · exact List.map_congr_left bodies

/-- A formula and its bare form have the same text, the same TeX and the same HTML under `all`, and
the same precedence. -/
theorem render_bare (formula : Formula) :
    (∀ style, formula.bare.render .all style = formula.render .all style) ∧
      precedence .all formula.bare = precedence .all formula :=
  ⟨fun style => render_bare_eq style formula, precedence_bare formula⟩

end FormulaTree.Formula
