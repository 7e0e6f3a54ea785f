import FormulaTree.Formula.Children
import FormulaTree.Proofs.Evaluation.Setting

set_option autoImplicit false

namespace FormulaTree

namespace Setting

/-- What a name stands for at the moment: a parameter for its argument, any other name for its value
in the scope or else for the constant of that name. -/
def lookUp (setting : Setting) (name : String) (scope : Scope) : Option Value :=
  if name ∈ setting.params then setting.args.get? name
  else (scope.get? name).or (setting.library.constant? name)

def callNamed (setting : Setting) (function : String) (arguments : List Value) :
    Run (Option Value) := do
  let f ← (setting.library.resolve function : Except Error Builtin)
  some <$> (f.call arguments : Except Error Value)

end Setting

namespace Formula

mutual

def interpret (setting : Setting) : Formula → Run (Option Value)
  | .constant value => pure (some value)
  | .symbol name => do
    match setting.lookUp name (← get) with
    | some value => pure (some value)
    | none => throw (.undefinedSymbol name)
  | .assignment target value => do
    let outcome ← interpret setting value
    let stored := outcome.getD .null
    modify (·.set target.targetName stored)
    pure (some stored)
  | .block statements => do
    let results ← interpretStatements setting statements
    pure (some (.resultSet results))
  | .operation _ function operands => do
    let arguments ← interpretAll setting operands
    setting.callNamed function arguments
  | .parenthesis content => interpret setting content
  | .call function arguments => do
    let arguments ← interpretAll setting arguments
    setting.callNamed function arguments
  | .conditional conditions blocks => interpretBranches setting conditions blocks
termination_by formula => sizeOf formula

def interpretAll (setting : Setting) : List Formula → Run (List Value)
  | [] => pure []
  | operand :: rest => do
    let outcome ← interpret setting operand
    let others ← interpretAll setting rest
    pure (outcome.getD .null :: others)
termination_by operands => sizeOf operands

def interpretStatements (setting : Setting) : List (Formula × Bool) → Run (List Value)
  | [] => pure []
  | (statement, visible) :: rest => do
    let outcome ← interpret setting statement
    let others ← interpretStatements setting rest
    pure (if visible then outcome.toList ++ others else others)
termination_by statements => sizeOf statements

/-- The block of the first condition that is true, or the last block if it has no condition. -/
def interpretBranches (setting : Setting) : List Formula → List Formula → Run (Option Value)
  | test :: tests, body :: bodies => do
    let outcome ← interpret setting test
    if ← (Value.outcomeTruth outcome : Except Error Bool) then interpret setting body
    else interpretBranches setting tests bodies
  | [], [body] => interpret setting body
  | _, _ => pure none
termination_by conditions blocks => sizeOf conditions + sizeOf blocks

end

end Formula

variable {setting : Setting}

theorem exec_ext {α : Type} {x x' : Run α} (h : ∀ scope, exec x scope = exec x' scope) : x = x' :=
  funext h

def Setting.Interprets (setting : Setting) (formula : Formula) (compiled : Compiled) : Prop :=
  compiled setting.args setting.context = formula.interpret setting

theorem values_eq_interpretAll {operands : List Formula} {compiled : List Compiled}
    (h : List.Forall₂ setting.Interprets operands compiled) :
    Compiled.values setting.args setting.context compiled
      = Formula.interpretAll setting operands := by
  induction h with
  | nil => rw [Compiled.values, Formula.interpretAll]
  | cons first _ ih =>
    rw [Compiled.values, Formula.interpretAll, first, ih]
    rfl

theorem results_eq_interpretStatements {statements : List (Formula × Bool)}
    {compiled : List (Compiled × Bool)}
    (h : List.Forall₂ (fun entry c => setting.Interprets entry.1 c.1 ∧ c.2 = entry.2)
      statements compiled) :
    Compiled.results setting.args setting.context compiled
      = Formula.interpretStatements setting statements := by
  induction h with
  | nil => rw [Compiled.results, Formula.interpretStatements]
  | @cons entry c _ _ first _ ih =>
    obtain ⟨statement, visible⟩ := entry
    obtain ⟨run, visible'⟩ := c
    obtain ⟨same, rfl⟩ : setting.Interprets statement run ∧ visible' = visible := first
    rw [Compiled.results, Formula.interpretStatements, same, ih]
    refine bind_congr fun outcome => bind_congr fun others => ?_
    cases outcome <;> cases visible' <;> rfl

theorem choose_eq_interpretBranches {conditions blocks : List Formula}
    {tests bodies : List Compiled} (ht : List.Forall₂ setting.Interprets conditions tests)
    (hb : List.Forall₂ setting.Interprets blocks bodies) :
    Compiled.choose tests bodies setting.args setting.context
      = Formula.interpretBranches setting conditions blocks := by
  induction ht generalizing blocks bodies with
  | nil =>
    cases hb with
    | nil => rw [Compiled.choose, Formula.interpretBranches] <;> simp
    | cons first rest =>
      cases rest with
      | nil =>
        rw [Compiled.choose, Formula.interpretBranches]
        exact first
      | cons _ _ => rw [Compiled.choose, Formula.interpretBranches] <;> simp
  | cons first _ ih =>
    cases hb with
    | nil => rw [Compiled.choose, Formula.interpretBranches] <;> simp
    | cons first' rest' =>
      rw [Formula.interpretBranches, ← first, ← first', ← ih rest']
      rfl

namespace Formula

theorem compileStatements_cons_eq_ok {library : Library} {params : List String}
    {statement : Formula} {visible : Bool} {rest : List (Formula × Bool)}
    {all : List (Compiled × Bool)}
    (h : compileStatements library params ((statement, visible) :: rest) = .ok all) :
    ∃ first others, statement.compile library params = .ok first ∧
      compileStatements library params rest = .ok others ∧ all = (first, visible) :: others := by
  obtain ⟨first, hf, h⟩ := bind_eq_ok.1 h
  obtain ⟨others, hr, h⟩ := bind_eq_ok.1 h
  cases h
  exact ⟨first, others, hf, hr, rfl⟩

theorem compiles_of_compileStatements {statements : List (Formula × Bool)}
    {all : List (Compiled × Bool)}
    (h : compileStatements setting.library setting.params statements = .ok all) :
    List.Forall₂ (fun entry c => setting.Compiles entry.1 c.1 ∧ c.2 = entry.2)
      statements all := by
  induction statements generalizing all with
  | nil =>
    cases h
    exact .nil
  | cons entry rest ih =>
    obtain ⟨first, others, hf, hr, rfl⟩ := compileStatements_cons_eq_ok h
    exact .cons ⟨hf, rfl⟩ (ih hr)

end Formula

theorem interprets_all {formulas : List Formula} {all : List Compiled}
    (ih : ∀ formula ∈ formulas, ∀ {compiled}, setting.Compiles formula compiled →
      setting.Interprets formula compiled)
    (compiles : List.Forall₂ setting.Compiles formulas all) :
    List.Forall₂ setting.Interprets formulas all :=
  forall₂_imp_mem compiles fun formula mem _ compiles => ih formula mem compiles

theorem apply_eq_callNamed {function : String} {f : Builtin} {operands : List Formula}
    {compiled : List Compiled} (resolved : setting.library.resolve function = .ok f)
    (h : List.Forall₂ setting.Interprets operands compiled) :
    Compiled.apply f compiled setting.args setting.context = (do
      let arguments ← Formula.interpretAll setting operands
      setting.callNamed function arguments) := by
  rw [Compiled.apply, values_eq_interpretAll h]
  refine bind_congr fun arguments => ?_
  rw [Setting.callNamed, resolved]
  rfl

theorem interprets_symbol {name : String} {compiled : Compiled}
    (h : setting.Compiles (.symbol name) compiled) :
    setting.Interprets (.symbol name) compiled := by
  unfold Setting.Compiles Formula.compile at h
  rw [Setting.Interprets, Formula.interpret]
  refine exec_ext fun scope => ?_
  simp only [exec_bind, exec_get, Setting.lookUp]
  split at h
  · rename_i param
    cases h
    rw [if_pos param]
    rfl
  · rename_i free
    cases h
    rw [if_neg free]
    rfl

/-- A compiled formula runs as the formula is interpreted. -/
theorem Setting.Compiles.interprets {formula : Formula} {compiled : Compiled}
    (h : setting.Compiles formula compiled) : setting.Interprets formula compiled := by
  induction formula generalizing compiled with
  | constant value =>
    cases h
    rw [Setting.Interprets, Formula.interpret]
    rfl
  | symbol name => exact interprets_symbol h
  | assignment target value _ ih =>
    obtain ⟨run, hv, h⟩ := bind_eq_ok.1 h
    cases h
    rw [Setting.Interprets, Formula.interpret, ← ih hv]
    rfl
  | block statements ih =>
    obtain ⟨runs, hs, h⟩ := bind_eq_ok.1 h
    cases h
    have compiles := Formula.compiles_of_compileStatements hs
    rw [Setting.Interprets, Formula.interpret, Compiled.sequence, results_eq_interpretStatements]
    exact forall₂_imp_mem compiles fun entry mem _ h => ⟨ih entry mem h.1, h.2⟩
  | operation op function operands ih =>
    obtain ⟨f, resolved, h⟩ := bind_eq_ok.1 h
    obtain ⟨runs, ho, h⟩ := bind_eq_ok.1 h
    cases h
    rw [Setting.Interprets, Formula.interpret]
    exact apply_eq_callNamed resolved (interprets_all ih (Formula.compiles_of_compileAll ho))
  | parenthesis content ih =>
    rw [Setting.Interprets, Formula.interpret]
    exact ih h
  | call function arguments ih =>
    obtain ⟨f, resolved, h⟩ := bind_eq_ok.1 h
    obtain ⟨runs, ha, h⟩ := bind_eq_ok.1 h
    cases h
    rw [Setting.Interprets, Formula.interpret]
    exact apply_eq_callNamed resolved (interprets_all ih (Formula.compiles_of_compileAll ha))
  | conditional conditions blocks ihc ihb =>
    obtain ⟨tests, bodies, ht, hb, rfl⟩ := Formula.compile_conditional_eq_ok h
    rw [Setting.Interprets, Formula.interpret]
    exact choose_eq_interpretBranches (interprets_all ihc ht) (interprets_all ihb hb)

theorem Setting.Compiles.run_eq {formula : Formula} {compiled : Compiled}
    (h : setting.Compiles formula compiled) (scope : Scope) :
    setting.run compiled scope = exec (formula.interpret setting) scope := by
  rw [← h.interprets]
  rfl

theorem Evaluator.compile_eq_ok {evaluator : Evaluator} {params : List String} {formula : Formula}
    {expression : Expression} (h : evaluator.compile params formula = .ok expression) :
    formula.compile evaluator.library params = .ok expression.run := by
  obtain ⟨compiled, hc, rfl⟩ := map_eq_ok.1 h
  exact hc

/-- Evaluating a compiled formula is interpreting the formula: the outcome is the same, absent or an
error as it may be, and so is the scope that is left. -/
theorem Expression.evaluateWith_eq_interpret {evaluator : Evaluator} {params : List String}
    {formula : Formula} {expression : Expression}
    (compiles : evaluator.compile params formula = .ok expression) (scope : Scope) (args : Args)
    (context : Context) :
    expression.evaluateWith scope args context
      = exec (formula.interpret ⟨evaluator.library, params, args, context⟩) scope := by
  have compiles : Setting.Compiles ⟨evaluator.library, params, args, context⟩ formula
      expression.run := Evaluator.compile_eq_ok compiles
  exact compiles.run_eq scope

/-- A constant is read, then covered by a variable of its name, before a symbol without a value ends
the run. -/
theorem Expression.evaluateWith_eq_interpret_covered_constant :
    ∃ evaluator expression, evaluator = { library := { constants := [("k", .null)] } } ∧
      Evaluator.compile evaluator ["p"] (.block [(.assignTo "first" (.symbol "k"), true),
        (.assignTo "k" (.symbol "p"), false), (.assignTo "second" (.symbol "k"), true),
        (.symbol "q", true)]) = .ok expression ∧
      exec (Formula.interpret ⟨evaluator.library, ["p"], ⟨[("p", .bool true)]⟩, {}⟩
        (.block [(.assignTo "first" (.symbol "k"), true), (.assignTo "k" (.symbol "p"), false),
          (.assignTo "second" (.symbol "k"), true), (.symbol "q", true)])) {}
        = (.error (.undefinedSymbol "q"),
          ⟨[("first", .null), ("k", .bool true), ("second", .bool true)]⟩) := by
  refine ⟨_, _, rfl, rfl, ?_⟩
  rw [← evaluateWith_eq_interpret rfl]
  rfl

end FormulaTree
