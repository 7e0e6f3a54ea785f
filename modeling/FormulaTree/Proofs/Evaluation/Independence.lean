import FormulaTree.Proofs.Evaluation.Alike

set_option autoImplicit false

namespace FormulaTree

/-- Neither formula sets what the other sets, or what the other reads and is no parameter. -/
structure Formula.Independent (params : List String) (p q : Formula) : Prop where
  targets : List.Disjoint p.targets q.targets
  right : ∀ name ∈ p.targets, name ∈ q.reads → name ∈ params
  left : ∀ name ∈ q.targets, name ∈ p.reads → name ∈ params

variable {setting : Setting} {p q : Formula} {run_p run_q : Compiled}

theorem get?_after_run (compiles : setting.Compiles p run_p) (scope : Scope) {name : String}
    (other : name ∉ p.targets) : (setting.run run_p scope).2.get? name = scope.get? name := by
  have agree := Setting.AgreeOn.refl (fun _ => True) setting
  obtain ⟨-, pairs, some_targets, set, -⟩ :=
    alike_interpret agree p (fun _ _ => trivial) scope scope fun _ _ => rfl
  rw [compiles.run_eq, set]
  exact Scope.get?_setAll_of_notMem fun mem => other (some_targets.subset mem)

/-- After a run of a formula that sets nothing that `p` reads, a run of `p` has the outcome that it
has without it, and sets the same variables to the same values. -/
theorem run_after (compiles_p : setting.Compiles p run_p) (compiles_q : setting.Compiles q run_q)
    (unread : ∀ name ∈ q.targets, name ∈ p.reads → name ∈ setting.params) (scope : Scope) :
    (setting.run run_p (setting.run run_q scope).2).1 = (setting.run run_p scope).1 ∧
      ∃ pairs, (Bindings.names pairs).Sublist p.targets ∧
        (setting.run run_p scope).2 = scope.setAll pairs ∧
        (setting.run run_p (setting.run run_q scope).2).2
          = (setting.run run_q scope).2.setAll pairs := by
  have agree : Scope.AgreeOn (setting.FromScope (· ∈ p.reads)) scope
      (setting.run run_q scope).2 := by
    rintro name ⟨read, free⟩
    exact (get?_after_run compiles_q scope fun set => free (unread name set read)).symm
  obtain ⟨same, pairs, some_targets, before, after⟩ :=
    alike_interpret (.refl _ setting) p (fun _ read => read) _ _ agree
  rw [compiles_p.run_eq, compiles_p.run_eq]
  exact ⟨same.symm, pairs, some_targets, before, after⟩

/-- Of two independent formulas that succeed one after the other, either may be run first: each has
the same outcome as before, and the same names are bound to the same values in the end. -/
theorem independent_runs_commute (compiles_p : setting.Compiles p run_p)
    (compiles_q : setting.Compiles q run_q) (apart : p.Independent setting.params q)
    {scope middle last : Scope} {v w : Option Value}
    (first : setting.run run_p scope = (.ok v, middle))
    (second : setting.run run_q middle = (.ok w, last)) :
    ∃ middle' last', setting.run run_q scope = (.ok w, middle') ∧
      setting.run run_p middle' = (.ok v, last') ∧
      (∀ name, last'.get? name = last.get? name) ∧
      (scope.names.Nodup → last'.bindings.Perm last.bindings) := by
  obtain ⟨same_p, pairs_p, targets_p, alone_p, after_p⟩ :=
    run_after compiles_p compiles_q apart.left scope
  obtain ⟨same_q, pairs_q, targets_q, alone_q, after_q⟩ :=
    run_after compiles_q compiles_p apart.right scope
  rw [first] at same_p same_q alone_p after_q
  rw [second] at same_q after_q
  obtain rfl : middle = scope.setAll pairs_p := alone_p
  obtain rfl : last = (scope.setAll pairs_p).setAll pairs_q := after_q
  have disjoint : List.Disjoint (Bindings.names pairs_p) (Bindings.names pairs_q) :=
    fun _ mem mem' => apart.targets (targets_p.subset mem) (targets_q.subset mem')
  have values : ∀ name, ((scope.setAll pairs_q).setAll pairs_p).get? name
      = ((scope.setAll pairs_p).setAll pairs_q).get? name :=
    Scope.get?_setAll_comm disjoint scope
  refine ⟨scope.setAll pairs_q, (scope.setAll pairs_q).setAll pairs_p, Prod.ext same_q.symm alone_q,
    ?_, values, fun distinct => ?_⟩
  · rw [← alone_q]
    exact Prod.ext same_p after_p
  · exact Bindings.perm_of_get?_eq
      (Scope.nodup_names_setAll (Scope.nodup_names_setAll distinct _) _)
      (Scope.nodup_names_setAll (Scope.nodup_names_setAll distinct _) _) values

/-- The second formula sets the name of a parameter that the first one reads, and both read `s`. -/
theorem independent_runs_commute_parameter :
    let setting : Setting := { params := ["t"], args := ⟨[("t", .bool true)]⟩ }
    let p : Formula := .block [(.assignTo "x" (.symbol "s"), true), (.symbol "t", true)]
    let q : Formula := .assignTo "t"
      (.conditional [.symbol "s"] [.symbol "s", .assignTo "y" (.constant .null)])
    let scope : Scope := ⟨[("s", .bool false)]⟩
    let last : Scope :=
      ⟨[("s", .bool false), ("x", .bool false), ("y", .null), ("t", .null)]⟩
    ∃ run_p run_q, setting.Compiles p run_p ∧ setting.Compiles q run_q ∧ p.Independent ["t"] q ∧
      setting.run run_p scope = (.ok (some (.resultSet [.bool false, .bool true])),
        ⟨[("s", .bool false), ("x", .bool false)]⟩) ∧
      setting.run run_q ⟨[("s", .bool false), ("x", .bool false)]⟩ = (.ok (some .null), last) ∧
      ∃ middle' last', setting.run run_q scope = (.ok (some .null), middle') ∧
        setting.run run_p middle' = (.ok (some (.resultSet [.bool false, .bool true])), last') ∧
        (∀ name, last'.get? name = last.get? name) ∧
        last'.bindings.Perm last.bindings := by
  intro setting p q scope last
  have apart : p.Independent ["t"] q := by
    constructor <;>
      simp [p, q, Formula.assignTo, Formula.targetName, Formula.kind, Formula.branches]
  obtain ⟨middle', last', first, second, same, moved⟩ :=
    @independent_runs_commute setting p q _ _ rfl rfl apart scope _ _ _ _ rfl rfl
  exact ⟨_, _, rfl, rfl, apart, rfl, rfl, middle', last', first, second, same,
    moved (List.nodup_singleton "s")⟩

end FormulaTree
