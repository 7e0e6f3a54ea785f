import FormulaTree.Evaluation.Compile
import FormulaTree.Evaluation.Prelude

set_option autoImplicit false

namespace FormulaTree

structure Evaluator where
  library : Library := Library.prelude
  context : Context := {}

namespace Evaluator

def compile (evaluator : Evaluator) (params : List String) (formula : Formula) :
    Except Error Expression :=
  (formula.compile evaluator.library params).map Expression.mk

/-- Compiles a formula without parameters and runs it once. A formula that does not compile leaves
the scope as it is. -/
def evaluate (evaluator : Evaluator) (formula : Formula) (scope : Scope) :
    Except Error (Option Value) × Scope :=
  match evaluator.compile [] formula with
  | .ok expression => expression.evaluateWith scope {} evaluator.context
  | .error e => (.error e, scope)

end Evaluator

end FormulaTree
