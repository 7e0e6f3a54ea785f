import FormulaTree.Proofs.Evaluation.Blame
import FormulaTree.Proofs.Formula.Substitution
import Mathlib.Logic.Equiv.Basic

set_option autoImplicit false

namespace FormulaTree

variable {r : String → String}

namespace Bindings

variable {β : Type}

def rename (r : String → String) (bindings : List (String × β)) : List (String × β) :=
  bindings.map fun entry => (r entry.1, entry.2)

theorem get?_rename (injective : Function.Injective r) (name : String)
    (bindings : List (String × β)) : get? (r name) (rename r bindings) = get? name bindings := by
  induction bindings with
  | nil => rfl
  | cons entry rest ih =>
    obtain ⟨key, value⟩ := entry
    change (if r key = r name then some value else get? (r name) (rename r rest)) = _
    simp only [injective.eq_iff, ih, get?]

theorem set_rename (injective : Function.Injective r) (name : String) (value : β)
    (bindings : List (String × β)) :
    set (r name) value (rename r bindings) = rename r (set name value bindings) := by
  induction bindings with
  | nil => rfl
  | cons entry rest ih =>
    obtain ⟨key, old⟩ := entry
    change (if r key = r name then (r key, value) :: rename r rest
      else (r key, old) :: set (r name) value (rename r rest)) = _
    simp only [injective.eq_iff, ih, set]
    split <;> rfl

end Bindings

def Scope.rename (r : String → String) (scope : Scope) : Scope :=
  ⟨Bindings.rename r scope.bindings⟩

def Args.rename (r : String → String) (args : Args) : Args :=
  ⟨Bindings.rename r args.values⟩

def Error.rename (r : String → String) : Error → Error
  | .undefinedSymbol name => .undefinedSymbol (r name)
  | e => e

def Setting.rename (r : String → String) (setting : Setting) : Setting :=
  { setting with params := setting.params.map r, args := setting.args.rename r }

section computations

variable {α β : Type}

/-- On a scope under the new names the second computation does what the first one does: it comes to
the same, with the new name in an error, and leaves the same scope under the new names. -/
def Renames (r : String → String) (x x' : Run α) : Prop :=
  ∀ scope, exec x' (scope.rename r)
    = ((exec x scope).1.mapError (Error.rename r), (exec x scope).2.rename r)

namespace Renames

theorem pure (a : α) : Renames r (Pure.pure a) (Pure.pure a) :=
  fun _ => rfl

theorem lift {result : Except Error α} (same : ∀ e, result = .error e → e.rename r = e) :
    Renames r (result : Run α) (result : Run α) := by
  intro scope
  rw [exec_lift, exec_lift]
  cases result with
  | ok a => rfl
  | error e => rw [Except.mapError, same e rfl]

theorem set (injective : Function.Injective r) (name : String) (value : Value) :
    Renames r (modify (·.set name value)) (modify (·.set (r name) value)) := by
  intro scope
  exact congrArg (fun bindings => (Except.ok (), Scope.mk bindings))
    (Bindings.set_rename injective name value scope.bindings)

theorem bind {x x' : Run α} {f f' : α → Run β} (h : Renames r x x')
    (next : ∀ a, Renames r (f a) (f' a)) : Renames r (x >>= f) (x' >>= f') := by
  intro scope
  rcases run : exec x scope with ⟨result, after⟩
  have run' := h scope
  rw [run] at run'
  cases result with
  | error e =>
    rw [exec_bind_error run, exec_bind_error run']
    rfl
  | ok a =>
    rw [exec_bind_ok run, exec_bind_ok run']
    exact next a after

theorem map {x x' : Run α} (f : α → β) (h : Renames r x x') : Renames r (f <$> x) (f <$> x') := by
  rw [map_eq_pure_bind, map_eq_pure_bind]
  exact h.bind fun a => .pure (f a)

end Renames

end computations

variable {setting : Setting}

theorem Setting.lookUp_rename (injective : Function.Injective r) {name : String}
    (constant : name ∉ setting.params →
      setting.library.constant? (r name) = setting.library.constant? name) (scope : Scope) :
    (setting.rename r).lookUp (r name) (scope.rename r) = setting.lookUp name scope := by
  have param : r name ∈ setting.params.map r ↔ name ∈ setting.params :=
    List.mem_map_of_injective injective
  have argument : (setting.args.rename r).get? (r name) = setting.args.get? name :=
    Bindings.get?_rename injective name setting.args.values
  have variable_value : (scope.rename r).get? (r name) = scope.get? name :=
    Bindings.get?_rename injective name scope.bindings
  simp only [Setting.lookUp, Setting.rename, param, argument, variable_value]
  split
  · rfl
  · rename_i free
    rw [constant free]

theorem renames_callNamed (function : String) (arguments : List Value) :
    Renames r (setting.callNamed function arguments)
      ((setting.rename r).callNamed function arguments) := by
  refine (Renames.lift fun e failed => ?_).bind fun f => (Renames.lift fun e failed => ?_).map some
  · have unknown : e = .unknownFunction function := by
      unfold Library.resolve at failed
      split at failed <;> cases failed
      rfl
    rw [unknown]
    rfl
  · obtain ⟨message, rfl⟩ := Builtin.call_eq_error failed
    rfl

namespace Formula

def renamedSymbol (r : String → String) : Formula → Formula
  | .symbol name => .symbol (r name)
  | formula => formula

/-- The formula with new names for all of its symbols, the targets of assignments among them. -/
def rename (r : String → String) (formula : Formula) : Except Error Formula :=
  formula.transform fun visit => .ok (visit.formula.renamedSymbol r)

def renamedName (r : String → String) (name : String) : Formula :=
  .symbol (r name)

theorem rename_eq_ok {formula : Formula} (h : formula.WellFormed) :
    formula.rename r = .ok (formula.substitute r (renamedName r)) := by
  have same (visit : Visit) :
      visit.formula.renamedSymbol r = visit.substituted r (renamedName r) := by
    obtain ⟨formula, address, parent⟩ := visit
    cases formula with
    | symbol name => exact (ite_self (Formula.symbol (r name))).symm
    | _ => rfl
  unfold rename
  simp only [same]
  exact transform_substituted h

def KeepsNames (setting : Setting) (r : String → String) (formula : Formula) : Prop :=
  Renames r (formula.interpret setting)
    ((formula.substitute r (renamedName r)).interpret (setting.rename r))

theorem keepsNames_symbol (injective : Function.Injective r) {name : String}
    (constant : name ∉ setting.params →
      setting.library.constant? (r name) = setting.library.constant? name) :
    KeepsNames setting r (.symbol name) := by
  intro scope
  rw [substitute, renamedName, exec_interpret_symbol, exec_interpret_symbol,
    Setting.lookUp_rename injective constant]
  cases setting.lookUp name scope <;> rfl

theorem renames_all {operands : List Formula}
    (h : ∀ operand ∈ operands, KeepsNames setting r operand) :
    Renames r (interpretAll setting operands)
      (interpretAll (setting.rename r) (substituteAll r (renamedName r) operands)) := by
  induction operands with
  | nil =>
    rw [substituteAll, interpretAll, interpretAll]
    exact .pure _
  | cons operand rest ih =>
    obtain ⟨first, later⟩ := List.forall_mem_cons.1 h
    rw [substituteAll, interpretAll, interpretAll]
    exact Renames.bind first fun outcome => (ih later).bind fun others => .pure _

theorem renames_statements {statements : List (Formula × Bool)}
    (h : ∀ entry ∈ statements, KeepsNames setting r entry.1) :
    Renames r (interpretStatements setting statements)
      (interpretStatements (setting.rename r)
        (substituteStatements r (renamedName r) statements)) := by
  induction statements with
  | nil =>
    rw [substituteStatements, interpretStatements, interpretStatements]
    exact .pure _
  | cons entry rest ih =>
    obtain ⟨first, later⟩ := List.forall_mem_cons.1 h
    rw [substituteStatements, interpretStatements, interpretStatements]
    exact Renames.bind first fun outcome => (ih later).bind fun others => .pure _

theorem renames_branches {index : Nat} {conditions blocks : List Formula}
    (h : ∀ child ∈ branches index conditions blocks, KeepsNames setting r child.2) :
    Renames r (interpretBranches setting conditions blocks)
      (interpretBranches (setting.rename r) (substituteAll r (renamedName r) conditions)
        (substituteAll r (renamedName r) blocks)) := by
  fun_induction branches index conditions blocks with
  | case1 index test tests body bodies ih =>
    obtain ⟨first, rest⟩ := List.forall_mem_cons.1 h
    obtain ⟨second, later⟩ := List.forall_mem_cons.1 rest
    rw [substituteAll, substituteAll, interpretBranches, interpretBranches]
    refine Renames.bind first fun outcome => ?_
    refine (Renames.lift fun e failed => ?_).bind fun truth => ?_
    · obtain ⟨value, -, -, rfl⟩ := Value.outcomeTruth_eq_error_iff.1 failed
      rfl
    · cases truth with
      | true => exact second
      | false => exact ih later
  | case2 index body =>
    have only := h (.elseBlock, body) List.mem_cons_self
    simp only [substituteAll, interpretBranches]
    exact only
  | case3 conditions index blocks paired single =>
    rw [interpretBranches.eq_3 _ _ _ paired single, substituteAll_eq_map, substituteAll_eq_map,
      interpretBranches.eq_3]
    · exact .pure _
    · intro _ _ _ _ some_test some_body
      obtain ⟨test, tests, rfl, -, -⟩ := List.map_eq_cons_iff.1 some_test
      obtain ⟨body, bodies, rfl, -, -⟩ := List.map_eq_cons_iff.1 some_body
      exact paired test tests body bodies rfl rfl
    · intro _ no_test one_body
      obtain ⟨body, rfl, -⟩ := List.map_eq_singleton_iff.1 one_body
      exact single body (List.map_eq_nil_iff.1 no_test) rfl

theorem keepsNames (injective : Function.Injective r) (formula : Formula)
    (constants : ∀ name ∈ formula.reads, name ∉ setting.params →
      setting.library.constant? (r name) = setting.library.constant? name) :
    KeepsNames setting r formula := by
  induction formula with
  | constant value =>
    rw [KeepsNames, substitute, interpret, interpret]
    exact .pure _
  | symbol name => exact keepsNames_symbol injective (constants name (by simp))
  | assignment target value _ ih =>
    have read := ih fun name mem => constants name (by simp [mem])
    rw [KeepsNames, substitute, interpret, interpret]
    refine Renames.bind read fun outcome => ?_
    exact (Renames.set injective _ _).bind fun _ => .pure _
  | block statements ih =>
    rw [reads_block, List.forall_mem_flatMap] at constants
    rw [KeepsNames, substitute, interpret, interpret]
    exact (renames_statements fun entry mem => ih entry mem (constants entry mem)).bind
      fun results => .pure _
  | operation op function operands ih =>
    rw [reads_operation, List.forall_mem_flatMap] at constants
    rw [KeepsNames, substitute, interpret, interpret]
    exact (renames_all fun operand mem => ih operand mem (constants operand mem)).bind
      (renames_callNamed function)
  | parenthesis content ih =>
    rw [reads_parenthesis] at constants
    rw [KeepsNames, substitute, interpret, interpret]
    exact ih constants
  | call function arguments ih =>
    rw [reads_call, List.forall_mem_flatMap] at constants
    rw [KeepsNames, substitute, interpret, interpret]
    exact (renames_all fun argument mem => ih argument mem (constants argument mem)).bind
      (renames_callNamed function)
  | conditional conditions blocks ihc ihb =>
    rw [reads_conditional, List.forall_mem_flatMap] at constants
    rw [KeepsNames, substitute, interpret, interpret]
    refine @renames_branches r setting 0 conditions blocks fun child mem => ?_
    rcases mem_of_mem_branches mem with mem' | mem'
    · exact ihc child.2 mem' (constants child mem)
    · exact ihb child.2 mem' (constants child mem)

theorem calleesOfAll_renamed {formulas : List Formula}
    (h : ∀ formula ∈ formulas,
      (formula.substitute r (renamedName r)).callees = formula.callees) :
    calleesOfAll (substituteAll r (renamedName r) formulas) = calleesOfAll formulas := by
  rw [calleesOfAll_eq_flatMap, calleesOfAll_eq_flatMap, substituteAll_eq_map, List.flatMap_map]
  exact List.flatMap_congr h

theorem callees_renamed (formula : Formula) :
    (formula.substitute r (renamedName r)).callees = formula.callees := by
  induction formula with
  | constant value => rfl
  | symbol name => rfl
  | assignment target value _ ih => exact ih
  | block statements ih =>
    rw [substitute, callees, callees, calleesOfStatements_eq_flatMap,
      calleesOfStatements_eq_flatMap, substituteStatements_eq_map, List.map_map, List.flatMap_map,
      List.flatMap_map]
    exact List.flatMap_congr ih
  | operation op function operands ih =>
    exact congrArg (List.cons function) (calleesOfAll_renamed ih)
  | parenthesis content ih => exact ih
  | call function arguments ih =>
    exact congrArg (List.cons function) (calleesOfAll_renamed ih)
  | conditional conditions blocks ihc ihb =>
    exact congrArg₂ (· ++ ·) (calleesOfAll_renamed ihc) (calleesOfAll_renamed ihb)

end Formula

/-- Formulas with the same callees fail to compile with the same error, or both compile, whatever
their parameters are. -/
theorem Evaluator.compile_of_callees_eq {formula formula' : Formula}
    (same : formula'.callees = formula.callees) (evaluator : Evaluator)
    (params params' : List String) :
    (∃ e, evaluator.compile params formula = .error e ∧
        evaluator.compile params' formula' = .error e) ∨
      ∃ run run', formula.compile evaluator.library params = .ok run ∧
        formula'.compile evaluator.library params' = .ok run' := by
  cases compiled : formula.compile evaluator.library params with
  | error e =>
    have failed' : formula'.compile evaluator.library params' = .error e := by
      rw [Formula.compile_eq_error_iff, same]
      exact Formula.compile_eq_error_iff.1 compiled
    exact .inl ⟨e, congrArg (Except.map Expression.mk) compiled,
      congrArg (Except.map Expression.mk) failed'⟩
  | ok run =>
    obtain ⟨run', compiled'⟩ :
        ∃ run', formula'.compile evaluator.library params' = .ok run' := by
      rw [Formula.compile_isOk_iff, same]
      exact Formula.compile_isOk_iff.1 ⟨run, compiled⟩
    exact .inr ⟨run, run', rfl, compiled'⟩

/-- Giving distinct new names to the symbols of a formula always succeeds, and the result compiles
with the new names of the parameters whenever the formula compiles with the old ones, or fails with
the same error. Run on the scope and the arguments under the new names, it has the outcome of the
formula, with the new name in the error for a symbol without a value, and leaves the scope that the
formula leaves, under the new names and in the same order. -/
theorem Expression.evaluateWith_renamed {evaluator : Evaluator} {params : List String}
    {formula : Formula} (wellFormed : formula.WellFormed) (injective : Function.Injective r)
    (constants : ∀ name ∈ formula.reads, name ∉ params →
      evaluator.library.constant? (r name) = evaluator.library.constant? name) :
    ∃ renamed, formula.rename r = .ok renamed ∧
      ((∃ e, evaluator.compile params formula = .error e ∧
          evaluator.compile (params.map r) renamed = .error e) ∨
        ∃ expression expression', evaluator.compile params formula = .ok expression ∧
          evaluator.compile (params.map r) renamed = .ok expression' ∧
          ∀ scope args context,
            expression'.evaluateWith (scope.rename r) (args.rename r) context
              = ((expression.evaluateWith scope args context).1.mapError (Error.rename r),
                (expression.evaluateWith scope args context).2.rename r)) := by
  refine ⟨_, Formula.rename_eq_ok wellFormed, ?_⟩
  rcases evaluator.compile_of_callees_eq (Formula.callees_renamed formula) params (params.map r)
    with failed | ⟨run, run', compiled, compiled'⟩
  · exact .inl failed
  · refine .inr ⟨⟨run⟩, ⟨run'⟩, congrArg (Except.map Expression.mk) compiled,
      congrArg (Except.map Expression.mk) compiled', fun scope args context => ?_⟩
    let setting : Setting := ⟨evaluator.library, params, args, context⟩
    have compiles : setting.Compiles formula run := compiled
    have compiles' : (setting.rename r).Compiles _ run' := compiled'
    have runs : setting.run run scope = exec (formula.interpret setting) scope :=
      compiles.run_eq scope
    have runs' : (setting.rename r).run run' (scope.rename r) = exec _ (scope.rename r) :=
      compiles'.run_eq (scope.rename r)
    have renamed := @Formula.keepsNames r setting injective formula constants scope
    rw [← runs, ← runs'] at renamed
    exact renamed

/-- The names `x` and `y` change places, and the symbol without a value is one of them. -/
theorem Expression.evaluateWith_renamed_swap :
    let r := Equiv.swap "x" "y"
    let evaluator : Evaluator := { library := { constants := [("k", .bool true)] } }
    let formula : Formula := .block [(.assignTo "x" (.symbol "k"), true),
      (.assignTo "p" (.symbol "p"), true), (.parenthesis (.symbol "y"), true)]
    let args : Args := ⟨[("p", .null)]⟩
    let scope : Scope := ⟨[("z", .null)]⟩
    ∃ renamed expression expression', formula.WellFormed ∧ Function.Injective r ∧
      (∀ name ∈ formula.reads, name ∉ ["p"] →
        evaluator.library.constant? (r name) = evaluator.library.constant? name) ∧
      formula.rename r = .ok renamed ∧
      renamed = .block [(.assignTo "y" (.symbol "k"), true),
        (.assignTo "p" (.symbol "p"), true), (.parenthesis (.symbol "x"), true)] ∧
      evaluator.compile ["p"] formula = .ok expression ∧
      evaluator.compile ["p"] renamed = .ok expression' ∧
      expression.evaluateWith scope args {} = (.error (.undefinedSymbol "y"),
        ⟨[("z", .null), ("x", .bool true), ("p", .null)]⟩) ∧
      expression'.evaluateWith scope args {} = (.error (.undefinedSymbol "x"),
        ⟨[("z", .null), ("y", .bool true), ("p", .null)]⟩) := by
  intro r evaluator formula args scope
  have wellFormed : formula.WellFormed :=
    Formula.Sound.wellFormed (by simp [formula, Formula.sound_block_iff, Formula.assignTo,
      Formula.sound_assignment_iff, Formula.sound_parenthesis_iff, Formula.sound_symbol,
      Formula.kind])
  have injective : Function.Injective r := r.injective
  have constants : ∀ name ∈ formula.reads, name ∉ ["p"] →
      evaluator.library.constant? (r name) = evaluator.library.constant? name := by
    intro name read _
    obtain rfl | rfl | rfl : name = "k" ∨ name = "p" ∨ name = "y" := by
      simpa [formula, Formula.assignTo, Formula.kind] using read
    all_goals rfl
  obtain ⟨renamed, transformed, same⟩ :=
    @Expression.evaluateWith_renamed r evaluator ["p"] _ wellFormed injective constants
  obtain rfl := Except.ok.inj (transformed.symm.trans (Formula.rename_eq_ok wellFormed))
  rcases same with ⟨_, failed, -⟩ | ⟨expression, expression', compiled, compiled', same⟩
  · cases failed
  · have runs := same scope args {}
    cases compiled
    exact ⟨_, _, expression', wellFormed, injective, constants, transformed, rfl, rfl, compiled',
      rfl, runs⟩

end FormulaTree
