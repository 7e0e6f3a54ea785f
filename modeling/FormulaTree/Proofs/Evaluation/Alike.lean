import FormulaTree.Proofs.Evaluation.Interpreter
import FormulaTree.Proofs.Formula.Names
import FormulaTree.Proofs.Scope

/-!
# Computations that do alike

`Alike` relates two computations that cannot be told apart by what they come to and what they set,
as long as they start from scopes that agree on the names they read. A formula is interpreted alike
in settings that agree on what it reads (`alike_interpret`); with one setting for both sides this
says which variables a single run sets, and in which order.
-/

set_option autoImplicit false

namespace FormulaTree

variable {α β : Type} {known : String → Prop}

/-- From scopes that agree on the known names both computations come to the same, and set the same
variables to the same values: some of those in the plan, in its order. -/
def Alike (known : String → Prop) (plan : List String) (x x' : Run α) : Prop :=
  ∀ scope scope', Scope.AgreeOn known scope scope' →
    (exec x scope).1 = (exec x' scope').1 ∧
    ∃ pairs, (Bindings.names pairs).Sublist plan ∧
      (exec x scope).2 = scope.setAll pairs ∧ (exec x' scope').2 = scope'.setAll pairs

namespace Alike

theorem still {x x' : Run α}
    (h : ∀ scope scope', Scope.AgreeOn known scope scope' →
      ∃ r, exec x scope = (r, scope) ∧ exec x' scope' = (r, scope')) : Alike known [] x x' := by
  intro scope scope' agree
  obtain ⟨r, run, run'⟩ := h scope scope' agree
  rw [run, run']
  exact ⟨rfl, [], .slnil, rfl, rfl⟩

theorem pure (a : α) : Alike known [] (Pure.pure a) (Pure.pure a) :=
  still fun _ _ _ => ⟨.ok a, rfl, rfl⟩

theorem lift (r : Except Error α) : Alike known [] (r : Run α) (r : Run α) :=
  still fun scope scope' _ => ⟨r, exec_lift r scope, exec_lift r scope'⟩

theorem set (name : String) (value : Value) :
    Alike known [name] (modify (·.set name value)) (modify (·.set name value)) := by
  intro scope scope' _
  exact ⟨rfl, [(name, value)], .refl _, rfl, rfl⟩

theorem mono {plan plan' : List String} {x x' : Run α} (h : Alike known plan x x')
    (more : plan.Sublist plan') : Alike known plan' x x' := by
  intro scope scope' agree
  obtain ⟨same, pairs, names, left, right⟩ := h scope scope' agree
  exact ⟨same, pairs, names.trans more, left, right⟩

theorem map {plan : List String} {x x' : Run α} (f : α → β) (h : Alike known plan x x') :
    Alike known plan (f <$> x) (f <$> x') := by
  intro scope scope' agree
  rw [exec_map, exec_map]
  obtain ⟨same, effect⟩ := h scope scope' agree
  exact ⟨congrArg (Except.map f) same, effect⟩

/-- The second steps start from scopes that agree again, since the first steps have set the same. -/
theorem bind {plan plan' : List String} {x x' : Run α} {f f' : α → Run β}
    (h : Alike known plan x x') (next : ∀ a, Alike known plan' (f a) (f' a)) :
    Alike known (plan ++ plan') (x >>= f) (x' >>= f') := by
  intro scope scope' agree
  obtain ⟨same, pairs, names, left, right⟩ := h scope scope' agree
  rcases run : exec x scope with ⟨r, after⟩
  rcases run' : exec x' scope' with ⟨r', after'⟩
  rw [run, run'] at same
  rw [run] at left
  rw [run'] at right
  obtain rfl : r = r' := same
  obtain rfl : after = scope.setAll pairs := left
  obtain rfl : after' = scope'.setAll pairs := right
  cases r with
  | error e =>
    rw [exec_bind_error run, exec_bind_error run']
    exact ⟨rfl, pairs, names.trans (List.sublist_append_left _ _), rfl, rfl⟩
  | ok a =>
    rw [exec_bind_ok run, exec_bind_ok run']
    obtain ⟨same, later, names', left, right⟩ := next a _ _ (agree.setAll pairs)
    refine ⟨same, pairs ++ later, ?_, ?_, ?_⟩
    · rw [Bindings.names, List.map_append]
      exact names.append names'
    · rw [left, Scope.setAll_append]
    · rw [right, Scope.setAll_append]

theorem before {plan : List String} {x x' : Run α} {f f' : α → Run β} (h : Alike known plan x x')
    (next : ∀ a, Alike known [] (f a) (f' a)) : Alike known plan (x >>= f) (x' >>= f') := by
  rw [← List.append_nil plan]
  exact h.bind next

end Alike

/-- The settings run the same compiled formulas, and have the same arguments for the known names. -/
structure Setting.AgreeOn (known : String → Prop) (setting setting' : Setting) : Prop where
  library : setting'.library = setting.library
  params : setting'.params = setting.params
  args : ∀ name ∈ setting.params, known name → setting.args.get? name = setting'.args.get? name

theorem Setting.AgreeOn.refl (known : String → Prop) (setting : Setting) :
    setting.AgreeOn known setting :=
  ⟨rfl, rfl, fun _ _ _ => rfl⟩

def Setting.FromScope (setting : Setting) (known : String → Prop) (name : String) : Prop :=
  known name ∧ name ∉ setting.params

variable {setting setting' : Setting}

theorem exec_interpret_symbol (name : String) (scope : Scope) :
    exec (Formula.interpret setting (.symbol name)) scope
      = (match setting.lookUp name scope with
        | some value => .ok (some value)
        | none => .error (.undefinedSymbol name), scope) := by
  rw [Formula.interpret, exec_bind, exec_get]
  dsimp only
  cases setting.lookUp name scope <;> rfl

theorem alike_symbol (agree : setting.AgreeOn known setting') {name : String} (h : known name) :
    Alike (setting.FromScope known) [] (Formula.interpret setting (.symbol name))
      (Formula.interpret setting' (.symbol name)) := by
  refine .still fun scope scope' scopes => ?_
  have same : setting.lookUp name scope = setting'.lookUp name scope' := by
    rw [Setting.lookUp, Setting.lookUp, agree.params, agree.library]
    split
    · rename_i param
      exact agree.args name param h
    · rename_i free
      rw [scopes name ⟨h, free⟩]
  exact ⟨_, exec_interpret_symbol name scope, by rw [exec_interpret_symbol, same]⟩

theorem alike_callNamed (library : setting'.library = setting.library) (function : String)
    (arguments : List Value) :
    Alike known [] (setting.callNamed function arguments)
      (setting'.callNamed function arguments) := by
  rw [Setting.callNamed, Setting.callNamed, library]
  exact (Alike.lift _).bind fun f => (Alike.lift _).map some

theorem alike_all {operands : List Formula}
    (h : ∀ operand ∈ operands,
      Alike known operand.targets (operand.interpret setting) (operand.interpret setting')) :
    Alike known (operands.flatMap Formula.targets) (Formula.interpretAll setting operands)
      (Formula.interpretAll setting' operands) := by
  induction operands with
  | nil =>
    rw [Formula.interpretAll, Formula.interpretAll]
    exact .pure _
  | cons operand rest ih =>
    obtain ⟨first, later⟩ := List.forall_mem_cons.1 h
    rw [Formula.interpretAll, Formula.interpretAll, List.flatMap_cons]
    exact first.bind fun outcome => (ih later).before fun others => .pure _

/-- Operands from left to right, then the function: what an operation does as well as a call. -/
theorem alike_call (library : setting'.library = setting.library) (function : String)
    {operands : List Formula}
    (h : ∀ operand ∈ operands,
      Alike known operand.targets (operand.interpret setting) (operand.interpret setting')) :
    Alike known (operands.flatMap Formula.targets)
      (Formula.interpretAll setting operands >>= setting.callNamed function)
      (Formula.interpretAll setting' operands >>= setting'.callNamed function) :=
  (alike_all h).before (alike_callNamed library function)

theorem alike_statements {statements : List (Formula × Bool)}
    (h : ∀ entry ∈ statements,
      Alike known entry.1.targets (entry.1.interpret setting) (entry.1.interpret setting')) :
    Alike known (statements.flatMap fun entry => entry.1.targets)
      (Formula.interpretStatements setting statements)
      (Formula.interpretStatements setting' statements) := by
  induction statements with
  | nil =>
    rw [Formula.interpretStatements, Formula.interpretStatements]
    exact .pure _
  | cons entry rest ih =>
    obtain ⟨first, later⟩ := List.forall_mem_cons.1 h
    rw [Formula.interpretStatements, Formula.interpretStatements, List.flatMap_cons]
    exact first.bind fun outcome => (ih later).before fun others => .pure _

/-- The order of the parts puts each block right after its condition, while a run goes from one
condition to the next and takes the block last: what it skips is left out of the plan. -/
theorem alike_branches {index : Nat} {conditions blocks : List Formula}
    (h : ∀ child ∈ Formula.branches index conditions blocks,
      Alike known child.2.targets (child.2.interpret setting) (child.2.interpret setting')) :
    Alike known ((Formula.branches index conditions blocks).flatMap fun child => child.2.targets)
      (Formula.interpretBranches setting conditions blocks)
      (Formula.interpretBranches setting' conditions blocks) := by
  fun_induction Formula.branches index conditions blocks with
  | case1 index test tests body bodies ih =>
    obtain ⟨first, rest⟩ := List.forall_mem_cons.1 h
    obtain ⟨second, later⟩ := List.forall_mem_cons.1 rest
    rw [Formula.interpretBranches, Formula.interpretBranches, List.flatMap_cons, List.flatMap_cons]
    refine first.bind fun outcome => ?_
    refine (Alike.lift _).bind fun truth => ?_
    cases truth with
    | true => exact second.mono (List.sublist_append_left _ _)
    | false => exact (ih later).mono (List.sublist_append_right _ _)
  | case2 index body =>
    rw [Formula.interpretBranches, Formula.interpretBranches]
    have only := h (.elseBlock, body) List.mem_cons_self
    exact only.mono (List.sublist_append_left _ _)
  | case3 conditions index blocks paired single =>
    rw [Formula.interpretBranches.eq_3 _ _ _ paired single,
      Formula.interpretBranches.eq_3 _ _ _ paired single]
    exact .pure _

/-- In settings that agree on what a formula reads it is interpreted alike, and sets some of its
targets in their order. -/
theorem alike_interpret (agree : setting.AgreeOn known setting') (formula : Formula)
    (h : ∀ name ∈ formula.reads, known name) :
    Alike (setting.FromScope known) formula.targets (formula.interpret setting)
      (formula.interpret setting') := by
  induction formula with
  | constant value =>
    rw [Formula.interpret, Formula.interpret, Formula.targets_constant]
    exact .pure _
  | symbol name =>
    rw [Formula.targets_symbol]
    exact alike_symbol agree (h name (by simp))
  | assignment target value _ ih =>
    have read : ∀ name ∈ value.reads, known name := fun name mem => h name (by simp [mem])
    rw [Formula.interpret, Formula.interpret, Formula.targets_assignment, List.append_assoc]
    refine Alike.mono ?_ (List.sublist_append_right _ _)
    refine (ih read).bind fun outcome => ?_
    exact (Alike.set _ _).bind fun _ => .pure _
  | block statements ih =>
    rw [Formula.reads_block, List.forall_mem_flatMap] at h
    have each := alike_statements fun entry mem => ih entry mem (h entry mem)
    rw [Formula.interpret, Formula.interpret, Formula.targets_block]
    exact each.before fun results => .pure _
  | operation op function operands ih =>
    rw [Formula.reads_operation, List.forall_mem_flatMap] at h
    rw [Formula.interpret, Formula.interpret, Formula.targets_operation]
    exact alike_call agree.library function fun operand mem => ih operand mem (h operand mem)
  | parenthesis content ih =>
    rw [Formula.reads_parenthesis] at h
    rw [Formula.interpret, Formula.interpret, Formula.targets_parenthesis]
    exact ih h
  | call function arguments ih =>
    rw [Formula.reads_call, List.forall_mem_flatMap] at h
    rw [Formula.interpret, Formula.interpret, Formula.targets_call]
    exact alike_call agree.library function fun argument mem => ih argument mem (h argument mem)
  | conditional conditions blocks ihc ihb =>
    rw [Formula.reads_conditional, List.forall_mem_flatMap] at h
    rw [Formula.interpret, Formula.interpret, Formula.targets_conditional]
    refine alike_branches fun child mem => ?_
    rcases Formula.mem_of_mem_branches mem with mem' | mem'
    · exact ihc child.2 mem' (h child mem)
    · exact ihb child.2 mem' (h child mem)

end FormulaTree
