import FormulaTree.Evaluation.Evaluator
import FormulaTree.Proofs.Exec
import Mathlib.Data.List.Forall2

set_option autoImplicit false

namespace FormulaTree

structure Setting where
  library : Library := {}
  params : List String := []
  args : Args := {}
  context : Context := {}

namespace Setting

def Compiles (setting : Setting) (formula : Formula) (compiled : Compiled) : Prop :=
  formula.compile setting.library setting.params = .ok compiled

def run (setting : Setting) (compiled : Compiled) (scope : Scope) :
    Except Error (Option Value) × Scope :=
  exec (compiled setting.args setting.context) scope

end Setting

def Formula.runIn (setting : Setting) (formula : Formula) (scope : Scope) :
    Except Error (Option Value) × Scope :=
  match formula.compile setting.library setting.params with
  | .ok compiled => setting.run compiled scope
  | .error e => (.error e, scope)

variable {setting : Setting}

@[simp] theorem exec_lift {α : Type} (r : Except Error α) (s : Scope) :
    exec (r : Run α) s = (r, s) := by
  cases r <;> rfl

theorem Setting.Compiles.runIn {formula : Formula} {compiled : Compiled}
    (h : setting.Compiles formula compiled) (scope : Scope) :
    formula.runIn setting scope = setting.run compiled scope := by
  unfold Formula.runIn
  rw [h]

theorem Evaluator.evaluate_eq_runIn (evaluator : Evaluator) (formula : Formula) (scope : Scope) :
    evaluator.evaluate formula scope
      = formula.runIn { library := evaluator.library, context := evaluator.context } scope := by
  unfold Evaluator.evaluate Evaluator.compile Formula.runIn
  cases formula.compile evaluator.library [] <;> rfl

namespace Formula

theorem compileAll_cons_eq_ok {library : Library} {params : List String} {formula : Formula}
    {rest : List Formula} {all : List Compiled}
    (h : compileAll library params (formula :: rest) = .ok all) :
    ∃ first others, formula.compile library params = .ok first ∧
      compileAll library params rest = .ok others ∧ all = first :: others := by
  obtain ⟨first, hf, h⟩ := bind_eq_ok.1 h
  obtain ⟨others, hr, h⟩ := bind_eq_ok.1 h
  cases h
  exact ⟨first, others, hf, hr, rfl⟩

theorem compiles_of_compileAll {formulas : List Formula} {all : List Compiled}
    (h : compileAll setting.library setting.params formulas = .ok all) :
    List.Forall₂ setting.Compiles formulas all := by
  induction formulas generalizing all with
  | nil =>
    cases h
    exact .nil
  | cons formula rest ih =>
    obtain ⟨first, others, hf, hr, rfl⟩ := compileAll_cons_eq_ok h
    exact .cons hf (ih hr)

theorem compile_conditional_eq_ok {conditions blocks : List Formula} {compiled : Compiled}
    (h : setting.Compiles (.conditional conditions blocks) compiled) :
    ∃ tests bodies, List.Forall₂ setting.Compiles conditions tests ∧
      List.Forall₂ setting.Compiles blocks bodies ∧ compiled = .choose tests bodies := by
  obtain ⟨tests, ht, h⟩ := bind_eq_ok.1 h
  obtain ⟨bodies, hb, h⟩ := bind_eq_ok.1 h
  cases h
  exact ⟨tests, bodies, compiles_of_compileAll ht, compiles_of_compileAll hb, rfl⟩

end Formula

end FormulaTree
