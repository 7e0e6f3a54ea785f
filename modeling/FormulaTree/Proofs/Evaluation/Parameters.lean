import FormulaTree.Proofs.Evaluation.Setting
import FormulaTree.Proofs.Formula.Sound
import FormulaTree.Proofs.Formula.Substitution

set_option autoImplicit false

namespace FormulaTree

/-- The node of a visit, or the constant with its argument if it is a parameter that is read. -/
def Visit.bound (params : List String) (args : Args) (visit : Visit) : Formula :=
  match visit.formula with
  | .symbol name =>
    if name ∈ params ∧ visit.position ≠ some .target then
      match args.get? name with
      | some value => .constant value
      | none => .symbol name
    else .symbol name
  | other => other

def Formula.bindParameters (params : List String) (args : Args) (formula : Formula) :
    Except Error Formula :=
  formula.transform fun visit => .ok (visit.bound params args)

def Args.inPlaceOf (params : List String) (args : Args) (name : String) : Formula :=
  if name ∈ params then ((args.get? name).map Formula.constant).getD (.symbol name)
  else .symbol name

theorem Visit.bound_eq_substituted (params : List String) (args : Args) (visit : Visit) :
    visit.bound params args = visit.substituted id (args.inPlaceOf params) := by
  obtain ⟨formula, address, parent⟩ := visit
  cases formula with
  | symbol name =>
    unfold bound substituted Args.inPlaceOf
    by_cases param : name ∈ params
    · by_cases target : Visit.position ⟨.symbol name, address, parent⟩ = some .target
      · simp [param, target]
      · cases found : args.get? name <;> simp [param, target, found]
    · simp [param]
  | _ => rfl

theorem Formula.bindParameters_eq_ok {params : List String} {args : Args} {formula : Formula}
    (h : formula.WellFormed) :
    formula.bindParameters params args = .ok (formula.substitute id (args.inPlaceOf params)) := by
  unfold bindParameters
  simp only [Visit.bound_eq_substituted]
  exact transform_substituted h

namespace Compiled

def supply (args : Args) (compiled : Compiled) : Compiled :=
  fun _ context => compiled args context

variable {args : Args}

theorem supply_argument {name : String} {value : Value} (h : args.get? name = some value) :
    supply args (argument name) = constant value := by
  funext other context
  rw [supply, argument, h]
  rfl

theorem values_supply (other : Args) (context : Context) (operands : List Compiled) :
    values other context (operands.map (supply args)) = values args context operands := by
  induction operands with
  | nil => rfl
  | cons operand rest ih =>
    rw [List.map_cons, values, values, ih]
    rfl

theorem supply_apply (f : Builtin) (operands : List Compiled) :
    supply args (apply f operands) = apply f (operands.map (supply args)) := by
  funext other context
  rw [supply, apply, apply, values_supply]

theorem results_supply (other : Args) (context : Context) (statements : List (Compiled × Bool)) :
    results other context (statements.map (Prod.map (supply args) id))
      = results args context statements := by
  induction statements with
  | nil => rfl
  | cons entry rest ih =>
    obtain ⟨statement, visible⟩ := entry
    rw [List.map_cons, Prod.map_apply, results, results, ih]
    rfl

theorem supply_sequence (statements : List (Compiled × Bool)) :
    supply args (sequence statements)
      = sequence (statements.map (Prod.map (supply args) id)) := by
  funext other context
  rw [supply, sequence, sequence, results_supply]

theorem supply_choose (tests bodies : List Compiled) :
    supply args (choose tests bodies)
      = choose (tests.map (supply args)) (bodies.map (supply args)) := by
  induction tests generalizing bodies with
  | nil =>
    match bodies with
    | [] => rfl
    | [body] => rfl
    | _ :: _ :: _ => rfl
  | cons test tests ih =>
    cases bodies with
    | nil => rfl
    | cons body bodies =>
      rw [List.map_cons, List.map_cons, choose, choose, ← ih]
      rfl

end Compiled

namespace Formula

variable {library : Library} {params : List String} {args : Args}

/-- The formula with constants compiles to what the formula with parameters compiles to, run on the
arguments; where one fails to compile, so does the other, with the same error. -/
def BindsTo (library : Library) (params : List String) (args : Args) (formula : Formula) : Prop :=
  (formula.substitute id (args.inPlaceOf params)).compile library []
    = Compiled.supply args <$> formula.compile library params

theorem compileAll_bound {formulas : List Formula}
    (h : ∀ formula ∈ formulas, BindsTo library params args formula) :
    compileAll library [] (substituteAll id (args.inPlaceOf params) formulas)
      = List.map (Compiled.supply args) <$> compileAll library params formulas := by
  induction formulas with
  | nil => rfl
  | cons formula rest ih =>
    obtain ⟨first, later⟩ := List.forall_mem_cons.1 h
    rw [substituteAll, compileAll, compileAll, first, ih later]
    cases compile library params formula with
    | error e => rfl
    | ok compiled => cases compileAll library params rest <;> rfl

theorem compileStatements_bound {statements : List (Formula × Bool)}
    (h : ∀ entry ∈ statements, BindsTo library params args entry.1) :
    compileStatements library [] (substituteStatements id (args.inPlaceOf params) statements)
      = List.map (Prod.map (Compiled.supply args) id)
        <$> compileStatements library params statements := by
  induction statements with
  | nil => rfl
  | cons entry rest ih =>
    obtain ⟨statement, visible⟩ := entry
    obtain ⟨first, later⟩ := List.forall_mem_cons.1 h
    rw [substituteStatements, compileStatements, compileStatements, first, ih later]
    cases compile library params statement with
    | error e => rfl
    | ok compiled => cases compileStatements library params rest <;> rfl

theorem bindsTo_symbol (defined : ∀ name ∈ params, args.contains name = true) (name : String) :
    BindsTo library params args (.symbol name) := by
  rw [BindsTo, substitute, Args.inPlaceOf]
  by_cases param : name ∈ params
  · obtain ⟨value, found⟩ := Option.isSome_iff_exists.1 (defined name param)
    have argument : args.get? name = some value := found
    rw [if_pos param, argument, compile, if_pos param]
    exact congrArg Except.ok (Compiled.supply_argument found).symm
  · rw [if_neg param, compile, compile, if_neg param, if_neg List.not_mem_nil]
    rfl

theorem bindsTo_call {function : String} {operands : List Formula}
    (h : ∀ operand ∈ operands, BindsTo library params args operand) :
    BindsTo library params args (.call function operands) := by
  rw [BindsTo, substitute, compile, compile, compileAll_bound h]
  cases library.resolve function with
  | error e => rfl
  | ok f =>
    cases compileAll library params operands with
    | error e => rfl
    | ok runs => exact congrArg Except.ok (Compiled.supply_apply f runs).symm

theorem compile_bound (defined : ∀ name ∈ params, args.contains name = true) (formula : Formula) :
    BindsTo library params args formula := by
  induction formula with
  | constant value => rfl
  | symbol name => exact bindsTo_symbol defined name
  | assignment target value _ ih =>
    rw [BindsTo, substitute, compile, compile, ih]
    cases compile library params value <;> rfl
  | block statements ih =>
    rw [BindsTo, substitute, compile, compile, compileStatements_bound ih]
    cases compileStatements library params statements with
    | error e => rfl
    | ok runs => exact congrArg Except.ok (Compiled.supply_sequence runs).symm
  | operation op function operands ih => exact bindsTo_call ih
  | parenthesis content ih =>
    rw [BindsTo, substitute, compile, compile]
    exact ih
  | call function arguments ih => exact bindsTo_call ih
  | conditional conditions blocks ihc ihb =>
    rw [BindsTo, substitute, compile, compile, compileAll_bound ihc, compileAll_bound ihb]
    cases compileAll library params conditions with
    | error e => rfl
    | ok tests =>
      cases compileAll library params blocks with
      | error e => rfl
      | ok bodies => exact congrArg Except.ok (Compiled.supply_choose tests bodies).symm

end Formula

/-- Putting constants for the parameters that are read always succeeds, and the result compiles
without parameters whenever the formula compiles with them, or fails with the same error. Run on the
same scope, the formula with the arguments and the result with any arguments give the same outcome
and leave the same scope. -/
theorem Expression.evaluateWith_bound {evaluator : Evaluator} {params : List String}
    {formula : Formula} {args : Args} (wellFormed : formula.WellFormed)
    (defined : ∀ name ∈ params, args.contains name = true) :
    ∃ closed, formula.bindParameters params args = .ok closed ∧
      ((∃ e, evaluator.compile params formula = .error e ∧
          evaluator.compile [] closed = .error e) ∨
        ∃ expression expression', evaluator.compile params formula = .ok expression ∧
          evaluator.compile [] closed = .ok expression' ∧
          ∀ scope context other, expression.evaluateWith scope args context
            = expression'.evaluateWith scope other context) := by
  refine ⟨_, Formula.bindParameters_eq_ok wellFormed, ?_⟩
  have compiled : evaluator.compile [] (formula.substitute id (args.inPlaceOf params))
      = (Compiled.supply args <$> formula.compile evaluator.library params).map Expression.mk :=
    congrArg _ (Formula.compile_bound defined formula)
  rw [compiled, Evaluator.compile]
  cases formula.compile evaluator.library params with
  | error e => exact .inl ⟨e, rfl, rfl⟩
  | ok run => exact .inr ⟨⟨run⟩, ⟨run.supply args⟩, rfl, rfl, fun _ _ _ => rfl⟩

/-- The parameter is the target of an assignment before it is read twice, once in a part of another
assignment. -/
theorem Expression.evaluateWith_bound_assigned_parameter :
    ∃ formula args closed expression expression',
      formula = .block [(.assignTo "p" (.symbol "x"), true), (.symbol "p", true),
        (.assignTo "y" (.parenthesis (.symbol "p")), true)] ∧
      args = ⟨[("p", .bool true)]⟩ ∧ formula.WellFormed ∧
      (∀ name ∈ ["p"], args.contains name = true) ∧
      formula.bindParameters ["p"] args = .ok closed ∧
      closed = .block [(.assignTo "p" (.symbol "x"), true), (.constant (.bool true), true),
        (.assignTo "y" (.parenthesis (.constant (.bool true))), true)] ∧
      Evaluator.compile {} ["p"] formula = .ok expression ∧
      Evaluator.compile {} [] closed = .ok expression' ∧
      expression.evaluateWith ⟨[("x", .null)]⟩ args {}
        = (.ok (some (.resultSet [.null, .bool true, .bool true])),
          ⟨[("x", .null), ("p", .null), ("y", .bool true)]⟩) ∧
      expression.evaluateWith ⟨[("x", .null)]⟩ args {}
        = expression'.evaluateWith ⟨[("x", .null)]⟩ ⟨[("p", .bool false)]⟩ {} := by
  have wellFormed : Formula.WellFormed (.block [(.assignTo "p" (.symbol "x"), true),
      (.symbol "p", true), (.assignTo "y" (.parenthesis (.symbol "p")), true)]) :=
    Formula.Sound.wellFormed (by simp [Formula.sound_block_iff, Formula.assignTo,
      Formula.sound_assignment_iff, Formula.sound_parenthesis_iff, Formula.sound_symbol,
      Formula.kind])
  have defined : ∀ name ∈ ["p"], Args.contains ⟨[("p", .bool true)]⟩ name = true := by
    simp [Args.contains, Bindings.contains, Bindings.get?]
  obtain ⟨closed, transformed, same⟩ :=
    @Expression.evaluateWith_bound {} ["p"] _ _ wellFormed defined
  obtain rfl := Except.ok.inj (transformed.symm.trans (Formula.bindParameters_eq_ok wellFormed))
  rcases same with ⟨_, failed, -⟩ | ⟨expression, expression', compiled, compiled', same⟩
  · cases failed
  · refine ⟨_, _, _, expression, expression', rfl, rfl, wellFormed, defined, transformed, rfl,
      compiled, compiled', ?_, same _ _ _⟩
    cases compiled
    rfl

end FormulaTree
