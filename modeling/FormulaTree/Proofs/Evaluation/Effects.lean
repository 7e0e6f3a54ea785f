import FormulaTree.Proofs.Evaluation.Alike

set_option autoImplicit false

namespace FormulaTree

variable {setting : Setting} {formula : Formula} {compiled : Compiled}

/-- The scope that a run leaves is the one it started from after setting some of the targets, each
assignment at most once and in their order. -/
theorem run_sets_targets (compiles : setting.Compiles formula compiled) (scope : Scope) :
    ∃ pairs, (Bindings.names pairs).Sublist formula.targets ∧
      (setting.run compiled scope).2 = scope.setAll pairs ∧
      (∀ name ∈ scope.names, name ∈ (setting.run compiled scope).2.names) ∧
      scope.names <+: (setting.run compiled scope).2.names ∧
      ∀ name ∉ formula.targets, (setting.run compiled scope).2.get? name = scope.get? name := by
  have agree := Setting.AgreeOn.refl (fun _ => True) setting
  have alike := alike_interpret agree formula fun _ _ => trivial
  obtain ⟨-, pairs, some_targets, set, -⟩ := alike scope scope fun _ _ => rfl
  have kept := scope.names_prefix_setAll pairs
  rw [compiles.run_eq, set]
  refine ⟨pairs, some_targets, rfl, fun name mem => kept.subset mem, kept, ?_⟩
  intro name other
  exact Scope.get?_setAll_of_notMem fun mem => other (some_targets.subset mem)

/-- The first condition is false, so its block is skipped; the block of the second one fails half
way. -/
theorem run_sets_targets_failing :
    ∃ formula compiled, formula = .conditional
        [.assignTo "a" (.constant .null), .assignTo "b" (.constant (.bool true))]
        [.assignTo "c" (.constant .null), .block [(.assignTo "a" (.symbol "b"), true),
          (.symbol "lost", true), (.assignTo "d" (.symbol "b"), true)]] ∧
      Setting.Compiles {} formula compiled ∧
      formula.targets = ["a", "c", "b", "a", "d"] ∧
      Setting.run {} compiled ⟨[("b", .null)]⟩
        = (.error (.undefinedSymbol "lost"), ⟨[("b", .bool true), ("a", .bool true)]⟩) ∧
      ∃ pairs, (Bindings.names pairs).Sublist formula.targets ∧
        (Setting.run {} compiled ⟨[("b", .null)]⟩).2 = Scope.setAll ⟨[("b", .null)]⟩ pairs := by
  refine ⟨_, _, rfl, rfl, ?_, rfl, ?_⟩
  · simp [Formula.branches, Formula.assignTo, Formula.targetName]
  · refine (run_sets_targets ?_ _).imp fun _ effect => ⟨effect.1, effect.2.1⟩
    rfl

/-- Runs from scopes and with arguments that agree on what the formula reads come to the same
outcome, and set the same variables to the same values. A parameter is read from the arguments even
after an assignment to its name, any other name from the scope even if there is an argument for
it. -/
theorem run_depends_on_reads (compiles : setting.Compiles formula compiled) {args : Args}
    {context : Context} {scope scope' : Scope}
    (scopes : ∀ name ∈ formula.reads, name ∉ setting.params →
      scope.get? name = scope'.get? name)
    (arguments : ∀ name ∈ formula.reads, name ∈ setting.params →
      setting.args.get? name = args.get? name) :
    (setting.run compiled scope).1
        = (Setting.run { setting with args, context } compiled scope').1 ∧
      ∀ name, ((setting.run compiled scope).2.get? name = scope.get? name ∧
          (Setting.run { setting with args, context } compiled scope').2.get? name
            = scope'.get? name) ∨
        ∃ value, (setting.run compiled scope).2.get? name = some value ∧
          (Setting.run { setting with args, context } compiled scope').2.get? name
            = some value := by
  have compiles' : Setting.Compiles { setting with args, context } formula compiled := compiles
  have agree : setting.AgreeOn (· ∈ formula.reads) { setting with args, context } :=
    ⟨rfl, rfl, fun name param read => arguments name read param⟩
  obtain ⟨same, pairs, -, left, right⟩ :=
    alike_interpret agree formula (fun _ read => read) scope scope'
      fun name known => scopes name known.1 known.2
  rw [compiles.run_eq, compiles'.run_eq, left, right]
  refine ⟨same, fun name => ?_⟩
  rw [Scope.get?_setAll, Scope.get?_setAll]
  cases Bindings.get? name pairs.reverse with
  | none => exact .inl ⟨rfl, rfl⟩
  | some value => exact .inr ⟨value, rfl, rfl⟩

/-- The scopes differ in the parameter `p`, which is assigned to and then read, and in `z`; the
arguments differ in `x`, which is no parameter. -/
theorem run_depends_on_reads_assigned_parameter :
    ∃ formula compiled, formula = .block [(.assignTo "p" (.symbol "x"), true),
        (.symbol "p", true), (.assignTo "y" (.symbol "p"), true)] ∧
      Setting.Compiles { params := ["p"], args := ⟨[("p", .null)]⟩ } formula compiled ∧
      (∀ name ∈ formula.reads, name ∉ ["p"] → Scope.get? ⟨[("x", .bool true)]⟩ name
        = Scope.get? ⟨[("p", .bool false), ("x", .bool true), ("z", .null)]⟩ name) ∧
      (∀ name ∈ formula.reads, name ∈ ["p"] → Args.get? ⟨[("p", .null)]⟩ name
        = Args.get? ⟨[("x", .bool false), ("p", .null)]⟩ name) ∧
      (Setting.run { params := ["p"], args := ⟨[("p", .null)]⟩ } compiled
          ⟨[("x", .bool true)]⟩).1 = .ok (some (.resultSet [.bool true, .null, .null])) ∧
      (Setting.run { params := ["p"], args := ⟨[("p", .null)]⟩ } compiled
          ⟨[("x", .bool true)]⟩).1
        = (Setting.run { params := ["p"], args := ⟨[("x", .bool false), ("p", .null)]⟩ } compiled
          ⟨[("p", .bool false), ("x", .bool true), ("z", .null)]⟩).1 := by
  refine ⟨_, _, rfl, rfl, ?scopes, ?arguments, rfl,
    (run_depends_on_reads ?compiles ?scopes ?arguments).1⟩
  case scopes => simp [Formula.assignTo, Formula.kind, Scope.get?, Bindings.get?]
  case arguments => simp [Formula.assignTo, Formula.kind, Args.get?, Bindings.get?]
  case compiles => rfl

end FormulaTree
