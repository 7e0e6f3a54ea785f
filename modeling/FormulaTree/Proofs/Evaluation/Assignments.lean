import FormulaTree.Proofs.Evaluation.Interpreter
import FormulaTree.Proofs.Scope

set_option autoImplicit false

namespace FormulaTree

variable {α β : Type} {setting : Setting}

/-- The pairs that a computation sets, then those of the computation after it, which starts from
where the first one stopped and does not start at all if that has failed. -/
def setInTurn (x : Run α) (first : Scope → List (String × Value))
    (next : α → Scope → List (String × Value)) (scope : Scope) : List (String × Value) :=
  first scope ++
    match exec x scope with
    | (.ok a, after) => next a after
    | (.error _, _) => []

namespace Formula

mutual

def assignments (setting : Setting) : Formula → Scope → List (String × Value)
  | .constant _ => fun _ => []
  | .symbol _ => fun _ => []
  | .assignment target value =>
    setInTurn (value.interpret setting) (assignments setting value)
      fun outcome _ => [(target.targetName, outcome.getD .null)]
  | .block statements => assignmentsOfStatements setting statements
  | .operation _ _ operands => assignmentsOfAll setting operands
  | .parenthesis content => assignments setting content
  | .call _ arguments => assignmentsOfAll setting arguments
  | .conditional conditions blocks => assignmentsOfBranches setting conditions blocks
termination_by formula => sizeOf formula

def assignmentsOfAll (setting : Setting) : List Formula → Scope → List (String × Value)
  | [] => fun _ => []
  | operand :: rest =>
    setInTurn (operand.interpret setting) (assignments setting operand)
      fun _ => assignmentsOfAll setting rest
termination_by operands => sizeOf operands

def assignmentsOfStatements (setting : Setting) :
    List (Formula × Bool) → Scope → List (String × Value)
  | [] => fun _ => []
  | (statement, _) :: rest =>
    setInTurn (statement.interpret setting) (assignments setting statement)
      fun _ => assignmentsOfStatements setting rest
termination_by statements => sizeOf statements

def assignmentsOfBranches (setting : Setting) :
    List Formula → List Formula → Scope → List (String × Value)
  | test :: tests, body :: bodies =>
    setInTurn (test.interpret setting) (assignments setting test) fun outcome =>
      match Value.outcomeTruth outcome with
      | .ok true => assignments setting body
      | .ok false => assignmentsOfBranches setting tests bodies
      | .error _ => fun _ => []
  | [], [body] => assignments setting body
  | _, _ => fun _ => []
termination_by conditions blocks => sizeOf conditions + sizeOf blocks

end

def assignmentsIn (setting : Setting) (formula : Formula) (scope : Scope) :
    List (String × Value) :=
  match formula.compile setting.library setting.params with
  | .ok _ => formula.assignments setting scope
  | .error _ => []

end Formula

/-- The computation sets the pairs one after the other and leaves the scope alone otherwise. -/
def Assigns (x : Run α) (pairs : Scope → List (String × Value)) : Prop :=
  ∀ scope, (exec x scope).2 = scope.setAll (pairs scope)

namespace Assigns

variable {x : Run α} {pairs : Scope → List (String × Value)}

theorem pure (a : α) : Assigns (Pure.pure a) fun _ => [] :=
  fun _ => rfl

theorem lift (r : Except Error α) : Assigns (r : Run α) fun _ => [] :=
  fun scope => congrArg Prod.snd (exec_lift r scope)

theorem set (name : String) (value : Value) :
    Assigns (modify (·.set name value)) fun _ => [(name, value)] :=
  fun _ => rfl

theorem map (f : α → β) (h : Assigns x pairs) : Assigns (f <$> x) pairs := by
  intro scope
  rw [exec_map]
  exact h scope

theorem bind {f : α → Run β} {later : α → Scope → List (String × Value)} (h : Assigns x pairs)
    (next : ∀ a, Assigns (f a) (later a)) : Assigns (x >>= f) (setInTurn x pairs later) := by
  intro scope
  have set := h scope
  rw [setInTurn, Scope.setAll_append, ← set]
  rcases run : exec x scope with ⟨r, after⟩
  cases r with
  | error e =>
    rw [exec_bind_error run]
    rfl
  | ok a =>
    rw [exec_bind_ok run]
    exact next a after

theorem before {f : α → Run β} (h : Assigns x pairs) (next : ∀ a, Assigns (f a) fun _ => []) :
    Assigns (x >>= f) pairs := by
  intro scope
  rw [h.bind next scope, setInTurn]
  rcases exec x scope with ⟨_ | _, _⟩ <;> rw [List.append_nil]

end Assigns

theorem assigns_symbol (name : String) :
    Assigns (Formula.interpret setting (.symbol name)) fun _ => [] := by
  intro scope
  rw [Formula.interpret, exec_bind, exec_get]
  dsimp only
  cases setting.lookUp name scope <;> rfl

theorem assigns_callNamed (function : String) (arguments : List Value) :
    Assigns (setting.callNamed function arguments) fun _ => [] := by
  rw [Setting.callNamed]
  exact (Assigns.lift _).before fun f => (Assigns.lift _).map some

theorem assigns_all {operands : List Formula}
    (h : ∀ operand ∈ operands, Assigns (operand.interpret setting) (operand.assignments setting)) :
    Assigns (Formula.interpretAll setting operands)
      (Formula.assignmentsOfAll setting operands) := by
  induction operands with
  | nil =>
    rw [Formula.interpretAll, Formula.assignmentsOfAll]
    exact .pure _
  | cons operand rest ih =>
    obtain ⟨first, later⟩ := List.forall_mem_cons.1 h
    rw [Formula.interpretAll, Formula.assignmentsOfAll]
    exact first.bind fun outcome => (ih later).before fun others => .pure _

/-- Operands from left to right, then the function, which has no access to the scope. -/
theorem assigns_call (function : String) {operands : List Formula}
    (h : ∀ operand ∈ operands, Assigns (operand.interpret setting) (operand.assignments setting)) :
    Assigns (Formula.interpretAll setting operands >>= setting.callNamed function)
      (Formula.assignmentsOfAll setting operands) :=
  (assigns_all h).before (assigns_callNamed function)

theorem assigns_statements {statements : List (Formula × Bool)}
    (h : ∀ entry ∈ statements,
      Assigns (entry.1.interpret setting) (entry.1.assignments setting)) :
    Assigns (Formula.interpretStatements setting statements)
      (Formula.assignmentsOfStatements setting statements) := by
  induction statements with
  | nil =>
    rw [Formula.interpretStatements, Formula.assignmentsOfStatements]
    exact .pure _
  | cons entry rest ih =>
    obtain ⟨first, later⟩ := List.forall_mem_cons.1 h
    rw [Formula.interpretStatements, Formula.assignmentsOfStatements]
    exact first.bind fun outcome => (ih later).before fun others => .pure _

theorem assigns_branches {conditions blocks : List Formula}
    (tests : ∀ test ∈ conditions, Assigns (test.interpret setting) (test.assignments setting))
    (bodies : ∀ body ∈ blocks, Assigns (body.interpret setting) (body.assignments setting)) :
    Assigns (Formula.interpretBranches setting conditions blocks)
      (Formula.assignmentsOfBranches setting conditions blocks) := by
  induction conditions generalizing blocks with
  | nil =>
    rcases blocks with _ | ⟨body, _ | ⟨second, rest⟩⟩
    · rw [Formula.interpretBranches, Formula.assignmentsOfBranches]
      · exact .pure _
      all_goals simp
    · rw [Formula.interpretBranches, Formula.assignmentsOfBranches]
      exact bodies body List.mem_cons_self
    · rw [Formula.interpretBranches, Formula.assignmentsOfBranches]
      · exact .pure _
      all_goals simp
  | cons test conditions ih =>
    cases blocks with
    | nil =>
      rw [Formula.interpretBranches, Formula.assignmentsOfBranches]
      · exact .pure _
      all_goals simp
    | cons body blocks =>
      obtain ⟨first, later⟩ := List.forall_mem_cons.1 tests
      obtain ⟨second, others⟩ := List.forall_mem_cons.1 bodies
      rw [Formula.interpretBranches, Formula.assignmentsOfBranches]
      refine first.bind fun outcome => ?_
      cases Value.outcomeTruth outcome with
      | error e => exact .lift (.error e)
      | ok truth =>
        cases truth with
        | true => exact second
        | false => exact ih later others

/-- Interpreting a formula makes its assignments. -/
theorem assigns_interpret (formula : Formula) :
    Assigns (formula.interpret setting) (formula.assignments setting) := by
  induction formula with
  | constant value =>
    rw [Formula.interpret, Formula.assignments]
    exact .pure _
  | symbol name =>
    rw [Formula.assignments]
    exact assigns_symbol name
  | assignment target value _ ih =>
    rw [Formula.interpret, Formula.assignments]
    exact ih.bind fun outcome => (Assigns.set _ _).before fun _ => .pure _
  | block statements ih =>
    rw [Formula.interpret, Formula.assignments]
    exact (assigns_statements ih).before fun results => .pure _
  | operation op function operands ih =>
    rw [Formula.interpret, Formula.assignments]
    exact assigns_call function ih
  | parenthesis content ih =>
    rw [Formula.interpret, Formula.assignments]
    exact ih
  | call function arguments ih =>
    rw [Formula.interpret, Formula.assignments]
    exact assigns_call function ih
  | conditional conditions blocks ihc ihb =>
    rw [Formula.interpret, Formula.assignments]
    exact assigns_branches ihc ihb

/-- A run leaves the scope it started from after its assignments, however it ends. -/
theorem Formula.runIn_setAll (setting : Setting) (formula : Formula) (scope : Scope) :
    (formula.runIn setting scope).2 = scope.setAll (formula.assignmentsIn setting scope) := by
  unfold Formula.runIn Formula.assignmentsIn
  cases compiles : formula.compile setting.library setting.params with
  | error e => rfl
  | ok compiled =>
    have compiles : setting.Compiles formula compiled := compiles
    dsimp only
    rw [compiles.run_eq]
    exact assigns_interpret formula scope

end FormulaTree
