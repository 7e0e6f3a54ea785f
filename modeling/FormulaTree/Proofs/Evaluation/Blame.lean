import FormulaTree.Proofs.Evaluation.Alike
import FormulaTree.Proofs.Evaluation.Arguments
import FormulaTree.Proofs.Evaluation.Library
import FormulaTree.Proofs.Evaluation.Resolution
import FormulaTree.Proofs.Value.Truth

set_option autoImplicit false

namespace FormulaTree

/-- What accounts for an error of a run of the formula from the scope. -/
inductive Blame (setting : Setting) (formula : Formula) (scope : Scope) : Error → Prop where
  | missingArgument {name : String} (read : name ∈ formula.reads) (param : name ∈ setting.params)
    (missing : setting.args.get? name = none) : Blame setting formula scope (.undefinedSymbol name)
  | unsetVariable {name : String} (read : name ∈ formula.reads) (free : name ∉ setting.params)
    (unset : scope.get? name = none) (noConstant : setting.library.constant? name = none) :
    Blame setting formula scope (.undefinedSymbol name)
  | failedCall {function message : String} (called : function ∈ formula.functions) :
    Blame setting formula scope (.functionFailed function message)
  | container {kind : Value.Kind} (kinds : kind ∈ [.matrix, .object, .resultSet])
    (conditional : ∃ node ∈ formula.nodes, node.kind = .conditional) :
    Blame setting formula scope (.noTruthValue kind)

variable {setting : Setting} {formula : Formula} {α β : Type}

/-- What has no value later on had none before. -/
theorem Blame.earlier {before after : Scope} {e : Error} (h : Blame setting formula after e)
    (kept : ∀ name, after.get? name = none → before.get? name = none) :
    Blame setting formula before e := by
  cases h with
  | missingArgument read param missing => exact .missingArgument read param missing
  | unsetVariable read free unset noConstant =>
    exact .unsetVariable read free (kept _ unset) noConstant
  | failedCall called => exact .failedCall called
  | container kinds conditional => exact .container kinds conditional

theorem Blame.mono {part : Formula} {scope : Scope} {e : Error} (h : Blame setting part scope e)
    (reads : part.reads ⊆ formula.reads) (nodes : part.nodes ⊆ formula.nodes) :
    Blame setting formula scope e := by
  cases h with
  | missingArgument read param missing => exact .missingArgument (reads read) param missing
  | unsetVariable read free unset noConstant =>
    exact .unsetVariable (reads read) free unset noConstant
  | failedCall called => exact .failedCall (Formula.functions_subset nodes called)
  | container kinds conditional =>
    obtain ⟨node, mem, same⟩ := conditional
    exact .container kinds ⟨node, nodes mem, same⟩

/-- Whatever scope the computation starts from, the formula and that scope account for its error,
and no variable is taken out. -/
def Blames (setting : Setting) (formula : Formula) (x : Run α) : Prop :=
  ∀ scope, (∀ e, (exec x scope).1 = .error e → Blame setting formula scope e) ∧
    ∀ name, (exec x scope).2.get? name = none → scope.get? name = none

namespace Blames

theorem mono {part : Formula} {x : Run α} (h : Blames setting part x)
    (reads : part.reads ⊆ formula.reads) (nodes : part.nodes ⊆ formula.nodes) :
    Blames setting formula x :=
  fun scope => ⟨fun e failed => ((h scope).1 e failed).mono reads nodes, (h scope).2⟩

theorem pure (a : α) : Blames setting formula (Pure.pure a) :=
  fun _ => ⟨fun _ failed => (nomatch failed), fun _ unset => unset⟩

theorem lift {r : Except Error α} (h : ∀ e scope, r = .error e → Blame setting formula scope e) :
    Blames setting formula (r : Run α) := by
  intro scope
  rw [exec_lift]
  exact ⟨fun e failed => h e scope failed, fun _ unset => unset⟩

theorem set (name : String) (value : Value) :
    Blames setting formula (modify (·.set name value)) := by
  intro scope
  rw [exec_modify]
  refine ⟨fun _ failed => (nomatch failed), fun other unset => ?_⟩
  rw [Scope.get?_set] at unset
  split at unset
  · cases unset
  · exact unset

/-- What accounts for an error of the second step in the scope after the first does so in the scope
before it. -/
theorem bind {x : Run α} {f : α → Run β} (h : Blames setting formula x)
    (next : ∀ a, Blames setting formula (f a)) : Blames setting formula (x >>= f) := by
  intro scope
  obtain ⟨blame, kept⟩ := h scope
  rcases run : exec x scope with ⟨r, after⟩
  rw [run] at blame kept
  cases r with
  | error e =>
    rw [exec_bind_error run]
    refine ⟨?_, kept⟩
    rintro _ ⟨⟩
    exact blame e rfl
  | ok a =>
    rw [exec_bind_ok run]
    obtain ⟨blame', kept'⟩ := next a after
    exact ⟨fun e failed => (blame' e failed).earlier kept,
      fun name unset => kept name (kept' name unset)⟩

end Blames

theorem Builtin.call_eq_error {f : Builtin} {args : List Value} {e : Error}
    (h : f.call args = .error e) : ∃ message, e = .functionFailed f.name message := by
  unfold call at h
  split at h
  · cases h
    exact ⟨_, rfl⟩
  · cases applied : f.apply args with
    | ok value =>
      rw [applied] at h
      cases h
    | error message =>
      rw [applied] at h
      cases h
      exact ⟨message, rfl⟩

theorem blames_symbol (name : String) :
    Blames setting (.symbol name) (Formula.interpret setting (.symbol name)) := by
  intro scope
  rw [exec_interpret_symbol]
  refine ⟨fun e failed => ?_, fun _ unset => unset⟩
  have read : name ∈ (Formula.symbol name).reads := by simp
  cases found : setting.lookUp name scope with
  | some value =>
    rw [found] at failed
    cases failed
  | none =>
    rw [found] at failed
    cases failed
    unfold Setting.lookUp at found
    split at found
    · rename_i param
      exact .missingArgument read param found
    · rename_i free
      obtain ⟨unset, noConstant⟩ := Option.or_eq_none_iff.1 found
      exact .unsetVariable read free unset noConstant

theorem blames_callNamed (named : setting.library.Named) {function : String} {f : Builtin}
    (found : setting.library.function? function = some f) (called : function ∈ formula.functions)
    (arguments : List Value) : Blames setting formula (setting.callNamed function arguments) := by
  have resolved : setting.library.resolve function = .ok f := by
    rw [Library.resolve, found]
  have same : setting.callNamed function arguments
      = ((some <$> f.call arguments : Except Error (Option Value)) : Run (Option Value)) := by
    rw [Setting.callNamed, resolved]
    change (some <$> (f.call arguments : Except Error Value) : Run (Option Value)) = _
    cases f.call arguments <;> rfl
  rw [same]
  refine .lift fun e scope failed => ?_
  cases result : f.call arguments with
  | ok value =>
    rw [result] at failed
    cases failed
  | error e =>
    rw [result] at failed
    cases failed
    obtain ⟨message, rfl⟩ := Builtin.call_eq_error result
    rw [named function f found]
    exact .failedCall called

theorem blames_all {operands : List Formula}
    (h : ∀ operand ∈ operands, Blames setting formula (operand.interpret setting)) :
    Blames setting formula (Formula.interpretAll setting operands) := by
  induction operands with
  | nil =>
    rw [Formula.interpretAll]
    exact .pure _
  | cons operand rest ih =>
    obtain ⟨first, later⟩ := List.forall_mem_cons.1 h
    rw [Formula.interpretAll]
    exact first.bind fun outcome => (ih later).bind fun others => .pure _

theorem blames_statements {statements : List (Formula × Bool)}
    (h : ∀ entry ∈ statements, Blames setting formula (entry.1.interpret setting)) :
    Blames setting formula (Formula.interpretStatements setting statements) := by
  induction statements with
  | nil =>
    rw [Formula.interpretStatements]
    exact .pure _
  | cons entry rest ih =>
    obtain ⟨first, later⟩ := List.forall_mem_cons.1 h
    rw [Formula.interpretStatements]
    exact first.bind fun outcome => (ih later).bind fun others => .pure _

theorem blames_branches {index : Nat} {conditions blocks : List Formula}
    (conditional : ∃ node ∈ formula.nodes, node.kind = .conditional)
    (h : ∀ child ∈ Formula.branches index conditions blocks,
      Blames setting formula (child.2.interpret setting)) :
    Blames setting formula (Formula.interpretBranches setting conditions blocks) := by
  fun_induction Formula.branches index conditions blocks with
  | case1 index test tests body bodies ih =>
    obtain ⟨first, rest⟩ := List.forall_mem_cons.1 h
    obtain ⟨second, later⟩ := List.forall_mem_cons.1 rest
    rw [Formula.interpretBranches]
    refine first.bind fun outcome => Blames.bind (.lift fun e scope failed => ?_) fun truth => ?_
    · obtain ⟨value, -, kinds, rfl⟩ := Value.outcomeTruth_eq_error_iff.1 failed
      exact .container kinds conditional
    · cases truth with
      | true => exact second
      | false => exact ih later
  | case2 index body =>
    rw [Formula.interpretBranches]
    exact h (.elseBlock, body) List.mem_cons_self
  | case3 conditions index blocks paired single =>
    rw [Formula.interpretBranches.eq_3 _ _ _ paired single]
    exact .pure _

theorem Formula.reads_subset_of_mem_children {child : Formula.Position × Formula}
    (h : child ∈ formula.children) (notTarget : child.1 ≠ .target) :
    child.2.reads ⊆ formula.reads := by
  by_cases assigns : formula.kind = .assignment
  · cases formula with
    | assignment target value =>
      rw [Formula.reads_assignment]
      simp only [Formula.children, List.mem_cons, List.not_mem_nil, or_false] at h
      rcases h with rfl | rfl
      · exact absurd rfl notTarget
      · exact List.subset_append_right _ _
    | _ => cases assigns
  · intro name mem
    rw [Formula.reads_eq assigns]
    exact List.mem_append_left _ (List.mem_flatMap.2 ⟨child, h, mem⟩)

theorem blames_call (named : setting.library.Named)
    (defined : ∀ function ∈ formula.functions,
      ∃ f, setting.library.function? function = some f)
    {function : String} (called : function ∈ formula.functions) {operands : List Formula}
    (h : ∀ operand ∈ operands, Blames setting formula (operand.interpret setting)) :
    Blames setting formula
      (Formula.interpretAll setting operands >>= setting.callNamed function) := by
  obtain ⟨f, found⟩ := defined function called
  exact (blames_all h).bind (blames_callNamed named found called)

/-- The formula itself and the scope that a run starts from account for every error of the run. -/
theorem blames_interpret (named : setting.library.Named) (h : formula.WellFormed)
    (defined : ∀ function ∈ formula.functions,
      ∃ f, setting.library.function? function = some f) :
    Blames setting formula (formula.interpret setting) := by
  induction h with
  | intro formula shape _ ih =>
    -- The target of an assignment is neither run nor read, so it is not one of the parts here.
    have parts : ∀ child ∈ formula.children, child.1 ≠ .target →
        Blames setting formula (child.2.interpret setting) := by
      intro child mem notTarget
      have nodes := Formula.nodes_subset_of_mem_children mem
      have defined' : ∀ function ∈ child.2.functions,
          ∃ f, setting.library.function? function = some f :=
        fun function called => defined function (Formula.functions_subset nodes called)
      exact (ih child mem defined').mono (Formula.reads_subset_of_mem_children mem notTarget) nodes
    have others (other : formula.kind ≠ .assignment) :
        ∀ part ∈ formula.children.map Prod.snd,
          Blames setting formula (part.interpret setting) := by
      intro part mem
      obtain ⟨child, child_mem, rfl⟩ := List.mem_map.1 mem
      exact parts child child_mem (Formula.ne_target_of_mem_children other child_mem)
    cases formula with
    | constant value =>
      rw [Formula.interpret]
      exact .pure _
    | symbol name => exact blames_symbol name
    | assignment target value =>
      have run := parts (.value, value) (by simp [Formula.children]) (by simp)
      rw [Formula.interpret]
      exact run.bind fun outcome => (Blames.set _ _).bind fun _ => .pure _
    | block statements =>
      have each := others (by simp [Formula.kind])
      rw [Formula.children, Formula.map_snd_numbered, List.forall_mem_map] at each
      rw [Formula.interpret]
      exact (blames_statements each).bind fun results => .pure _
    | operation op function operands =>
      have each := others (by simp [Formula.kind])
      rw [Formula.children, Formula.map_snd_numbered] at each
      rw [Formula.interpret]
      exact blames_call named defined (Formula.mem_functions_self rfl) each
    | parenthesis content =>
      rw [Formula.interpret]
      exact parts (.content, content) (by simp [Formula.children]) (by simp)
    | call function arguments =>
      have each := others (by simp [Formula.kind])
      rw [Formula.children, Formula.map_snd_numbered] at each
      rw [Formula.interpret]
      exact blames_call named defined (Formula.mem_functions_self rfl) each
    | conditional conditions blocks =>
      have each : ∀ child ∈ Formula.branches 0 conditions blocks,
          Blames setting (.conditional conditions blocks) (child.2.interpret setting) :=
        fun child mem => parts child mem (Formula.ne_target_of_mem_branches mem)
      rw [Formula.interpret]
      exact blames_branches ⟨_, Formula.mem_nodes_self _, rfl⟩ each

/-- A run fails only for a parameter that is read without an argument for it, for a variable that is
read with no value in the scope that the run started from and no constant of its name, for a function
that a node of the formula stands for, or, if a conditional is among the nodes, for a value that
holds others. The functions of the prelude never take an argument that is not there, however many
they are given. -/
theorem run_error_blame (built : setting.library.Built) (h : formula.WellFormed)
    {compiled : Compiled} (compiles : setting.Compiles formula compiled) :
    (∀ scope e, (setting.run compiled scope).1 = .error e → Blame setting formula scope e) ∧
      Prelude.bodies.map Prod.fst = Prelude.functions ∧
      ∀ f body, (f, body) ∈ Prelude.bodies →
        ∀ args, f.callByNumber body args = some (f.call args) := by
  have defined : ∀ function ∈ formula.functions,
      ∃ f, setting.library.function? function = some f := by
    intro function called
    have all := Formula.compile_isOk_iff.1 ⟨compiled, compiles⟩
    exact all function ((Formula.callees_perm h).mem_iff.2 called)
  refine ⟨fun scope e failed => ?_, Prelude.map_fst_bodies, fun f body mem => ?_⟩
  · rw [compiles.run_eq] at failed
    exact (blames_interpret built.named h defined scope).1 e failed
  · exact Prelude.takes_of_mem_bodies (f, body) mem

/-- The assignment to `x` stands in a block that is not run, so `x` is read without a value. -/
theorem run_error_blame_skipped_assignment :
    let setting : Setting :=
      { library := Library.define {} ⟨"f", -1, fun _ => .ok (.bool false)⟩, params := ["p"] }
    let formula := Formula.block [(.conditional [.call "f" []]
      [.assignTo "x" (.constant .null)], true), (.symbol "x", true)]
    formula.WellFormed ∧ setting.library.Built ∧ ∃ compiled, setting.Compiles formula compiled ∧
      setting.run compiled ⟨[("p", .null)]⟩ = (.error (.undefinedSymbol "x"), ⟨[("p", .null)]⟩) ∧
      Blame setting formula ⟨[("p", .null)]⟩ (.undefinedSymbol "x") := by
  intro setting formula
  have wellFormed : formula.WellFormed :=
    Formula.Sound.wellFormed (by simp [formula, Formula.sound_block_iff, Formula.assignTo,
      Formula.sound_assignment_iff, Formula.sound_symbol, Formula.sound_constant_iff,
      Formula.sound_call_iff, Formula.sound_conditional_iff, Formula.Shape, Formula.kind,
      Value.Keyed])
  have built : setting.library.Built := .define .empty _
  obtain ⟨compiled, compiles, failed⟩ : ∃ compiled, setting.Compiles formula compiled ∧
      setting.run compiled ⟨[("p", .null)]⟩
        = (.error (.undefinedSymbol "x"), ⟨[("p", .null)]⟩) :=
    ⟨_, rfl, rfl⟩
  exact ⟨wellFormed, built, compiled, compiles, failed,
    (run_error_blame built wellFormed compiles).1 _ _ (congrArg Prod.fst failed)⟩

end FormulaTree
