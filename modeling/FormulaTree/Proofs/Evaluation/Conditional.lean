import FormulaTree.Proofs.Evaluation.Setting
import Mathlib.Data.Nat.Find

set_option autoImplicit false

namespace FormulaTree

variable {setting : Setting}

def scopeAfter (setting : Setting) (conditions : List Formula) (scope : Scope) : Scope :=
  conditions.foldl (fun scope condition => (condition.runIn setting scope).2) scope

/-- What condition number `i` comes to when those before it have run: a truth value or an error. -/
def verdict (setting : Setting) (conditions : List Formula) (scope : Scope) (i : Nat) :
    Option (Except Error Bool) :=
  conditions[i]?.map fun condition =>
    (condition.runIn setting (scopeAfter setting (conditions.take i) scope)).1
      >>= Value.outcomeTruth

def FalseBefore (setting : Setting) (conditions : List Formula) (scope : Scope) (i : Nat) : Prop :=
  ∀ j < i, verdict setting conditions scope j = some (.ok false)

/-- Condition number `i` is the first that is not false, and comes to `result`. -/
def Decides (setting : Setting) (conditions : List Formula) (scope : Scope) (i : Nat)
    (result : Except Error Bool) : Prop :=
  verdict setting conditions scope i = some result ∧ FalseBefore setting conditions scope i

theorem verdict_zero (condition : Formula) (rest : List Formula) (scope : Scope) :
    verdict setting (condition :: rest) scope 0
      = some ((condition.runIn setting scope).1 >>= Value.outcomeTruth) := rfl

theorem verdict_succ (condition : Formula) (rest : List Formula) (scope : Scope) (i : Nat) :
    verdict setting (condition :: rest) scope (i + 1)
      = verdict setting rest (condition.runIn setting scope).2 i := rfl

theorem scopeAfter_take_succ {conditions : List Formula} {i : Nat} {condition : Formula}
    (h : conditions[i]? = some condition) (scope : Scope) :
    scopeAfter setting (conditions.take (i + 1)) scope
      = (condition.runIn setting (scopeAfter setting (conditions.take i) scope)).2 := by
  rw [List.take_add_one, h]
  simp [scopeAfter]

/-- One turn of a conditional, in terms of the truth value that its first condition comes to. -/
theorem run_choose_cons {condition : Formula} {test : Compiled}
    (h : setting.Compiles condition test) (body : Compiled) (tests bodies : List Compiled)
    (scope : Scope) :
    setting.run (.choose (test :: tests) (body :: bodies)) scope
      = match (condition.runIn setting scope).1 >>= Value.outcomeTruth with
        | .ok true => setting.run body (condition.runIn setting scope).2
        | .ok false => setting.run (.choose tests bodies) (condition.runIn setting scope).2
        | .error e => (.error e, (condition.runIn setting scope).2) := by
  rw [h.runIn]
  simp only [Setting.run, Compiled.choose, exec_bind, exec_lift]
  rcases exec (test setting.args setting.context) scope with ⟨result, scope'⟩
  cases result with
  | error e => rfl
  | ok outcome =>
    simp only [bind, Except.bind]
    rcases Value.outcomeTruth outcome with e | b
    · rfl
    · cases b <;> rfl

theorem run_choose_skip {conditions : List Formula} {tests bodies : List Compiled} {scope : Scope}
    {i : Nat} (h : FalseBefore setting conditions scope i)
    (ht : List.Forall₂ setting.Compiles conditions tests) (enough : tests.length ≤ bodies.length) :
    setting.run (.choose tests bodies) scope
      = setting.run (.choose (tests.drop i) (bodies.drop i))
          (scopeAfter setting (conditions.take i) scope) := by
  induction i generalizing conditions tests bodies scope with
  | zero => rfl
  | succ i ih =>
    have first := h 0 (by omega)
    cases ht with
    | nil => simp [verdict] at first
    | @cons condition test conditions tests compiles ht =>
      cases bodies with
      | nil => simp at enough
      | cons body bodies =>
        rw [verdict_zero, Option.some_inj] at first
        have later : FalseBefore setting conditions (condition.runIn setting scope).2 i := by
          intro j hj
          rw [← verdict_succ]
          exact h (j + 1) (by omega)
        rw [run_choose_cons compiles, first]
        exact ih later ht (by simpa using enough)

theorem Decides.run_choose {conditions blocks : List Formula} {tests bodies : List Compiled}
    {scope : Scope} {i : Nat} {result : Except Error Bool}
    (h : Decides setting conditions scope i result)
    (ht : List.Forall₂ setting.Compiles conditions tests)
    (hb : List.Forall₂ setting.Compiles blocks bodies) (enough : conditions.length ≤ blocks.length) :
    ∃ block, blocks[i]? = some block ∧
      (result = .ok true → setting.run (.choose tests bodies) scope
        = block.runIn setting (scopeAfter setting (conditions.take (i + 1)) scope)) ∧
      ∀ e, result = .error e → setting.run (.choose tests bodies) scope
        = (.error e, scopeAfter setting (conditions.take (i + 1)) scope) := by
  obtain ⟨condition, at_i, verdict_eq⟩ := Option.map_eq_some_iff.1 h.1
  obtain ⟨below, rfl⟩ := List.getElem?_eq_some_iff.1 at_i
  have below' : i < blocks.length := by omega
  have test_lt : i < tests.length := by rw [← ht.length_eq]; exact below
  have body_lt : i < bodies.length := by rw [← hb.length_eq]; exact below'
  have compiles : setting.Compiles conditions[i] tests[i] := ht.get below test_lt
  have compiles' : setting.Compiles blocks[i] bodies[i] := hb.get below' body_lt
  have enough' : tests.length ≤ bodies.length := by
    rw [← ht.length_eq, ← hb.length_eq]
    exact enough
  have skip := run_choose_skip h.2 ht enough'
  rw [List.drop_eq_getElem_cons test_lt, List.drop_eq_getElem_cons body_lt,
    run_choose_cons compiles, verdict_eq, ← scopeAfter_take_succ at_i] at skip
  refine ⟨blocks[i], List.getElem?_eq_getElem below', ?_, ?_⟩
  · rintro rfl
    rw [skip, compiles'.runIn]
  · rintro e rfl
    exact skip

theorem run_choose_all_false {conditions blocks : List Formula} {tests bodies : List Compiled}
    {scope : Scope} (h : FalseBefore setting conditions scope conditions.length)
    (ht : List.Forall₂ setting.Compiles conditions tests)
    (hb : List.Forall₂ setting.Compiles blocks bodies)
    (count : blocks.length = conditions.length ∨ blocks.length = conditions.length + 1) :
    setting.run (.choose tests bodies) scope = match Formula.elseBlock? conditions blocks with
      | some block => block.runIn setting (scopeAfter setting conditions scope)
      | none => (.ok none, scopeAfter setting conditions scope) := by
  have enough : tests.length ≤ bodies.length := by
    rw [← ht.length_eq, ← hb.length_eq]
    omega
  have skip := run_choose_skip h ht enough
  rw [List.take_length, List.drop_eq_nil_of_le (Nat.le_of_eq ht.length_eq.symm)] at skip
  have same := hb.length_eq
  rw [skip]
  rcases count with count | count
  · rw [Formula.elseBlock?, if_neg (by omega),
      List.drop_eq_nil_of_le (by omega)]
    rfl
  · have last_lt : conditions.length < blocks.length := by omega
    have body_lt : conditions.length < bodies.length := by omega
    have compiles : setting.Compiles blocks[conditions.length] bodies[conditions.length] :=
      hb.get last_lt body_lt
    have last : blocks.getLast? = some blocks[conditions.length] := by
      rw [List.getLast?_eq_getElem?, show blocks.length - 1 = conditions.length by omega]
      exact List.getElem?_eq_getElem last_lt
    rw [Formula.elseBlock?, if_pos last_lt, last, List.drop_eq_getElem_cons body_lt,
      List.drop_eq_nil_of_le (by omega)]
    exact (compiles.runIn _).symm

theorem verdict_congr {conditions conditions' : List Formula} {i j : Nat}
    (same : conditions'.take (i + 1) = conditions.take (i + 1)) (h : j ≤ i) (scope : Scope) :
    verdict setting conditions' scope j = verdict setting conditions scope j := by
  have at_j : conditions'[j]? = conditions[j]? := by
    rw [← List.getElem?_take_of_lt (show j < i + 1 by omega), same,
      List.getElem?_take_of_lt (by omega)]
  have before_j : conditions'.take j = conditions.take j := by
    have := congrArg (List.take j) same
    rwa [List.take_take, List.take_take, Nat.min_eq_left (by omega)] at this
  rw [verdict, verdict, at_j, before_j]

theorem Decides.congr {conditions conditions' : List Formula} {scope : Scope} {i : Nat}
    {result : Except Error Bool} (h : Decides setting conditions scope i result)
    (same : conditions'.take (i + 1) = conditions.take (i + 1)) :
    Decides setting conditions' scope i result := by
  refine ⟨(verdict_congr same (Nat.le_refl i) scope).trans h.1, fun j hj => ?_⟩
  rw [verdict_congr same (by omega)]
  exact h.2 j hj

theorem decides_or_all_false (setting : Setting) (conditions : List Formula) (scope : Scope) :
    (∃ i result, result ≠ .ok false ∧ Decides setting conditions scope i result) ∨
      FalseBefore setting conditions scope conditions.length := by
  by_cases all : FalseBefore setting conditions scope conditions.length
  · exact .inr all
  · classical
    have some_not : ∃ i, i < conditions.length ∧
        verdict setting conditions scope i ≠ some (.ok false) := by
      simpa [FalseBefore] using all
    obtain ⟨below, not_false⟩ := Nat.find_spec some_not
    have at_i := List.getElem?_eq_getElem below
    refine .inl ⟨Nat.find some_not, _, ?_, by rw [verdict, at_i]; rfl, fun j hj => ?_⟩
    · rw [verdict, at_i] at not_false
      simpa using not_false
    · by_contra different
      exact Nat.find_min some_not hj ⟨by omega, different⟩

/-- A conditional runs its conditions in order, then the block of the first one that is true, and
nothing else. -/
theorem conditional_runs_first_true {conditions blocks : List Formula} {compiled : Compiled}
    (shape : (Formula.conditional conditions blocks).Shape)
    (compiles : setting.Compiles (.conditional conditions blocks) compiled) (scope : Scope) :
    (∀ part ∈ conditions ++ blocks, ∃ c, setting.Compiles part c) ∧
    (∀ i, Decides setting conditions scope i (.ok true) → ∃ block, blocks[i]? = some block ∧
      setting.run compiled scope
        = block.runIn setting (scopeAfter setting (conditions.take (i + 1)) scope) ∧
      ∀ conditions' blocks' compiled', (Formula.conditional conditions' blocks').Shape →
        setting.Compiles (.conditional conditions' blocks') compiled' →
        conditions'.take (i + 1) = conditions.take (i + 1) → blocks'[i]? = some block →
        setting.run compiled' scope = setting.run compiled scope) ∧
    (∀ i e, Decides setting conditions scope i (.error e) → setting.run compiled scope
        = (.error e, scopeAfter setting (conditions.take (i + 1)) scope)) ∧
    (FalseBefore setting conditions scope conditions.length → setting.run compiled scope
        = match Formula.elseBlock? conditions blocks with
          | some block => block.runIn setting (scopeAfter setting conditions scope)
          | none => (.ok none, scopeAfter setting conditions scope)) ∧
    ((∃ i, Decides setting conditions scope i (.ok true)) ∨
      (∃ i e, Decides setting conditions scope i (.error e)) ∨
      FalseBefore setting conditions scope conditions.length) := by
  obtain ⟨tests, bodies, ht, hb, rfl⟩ := Formula.compile_conditional_eq_ok compiles
  have enough : conditions.length ≤ blocks.length := by
    have := shape.2
    omega
  refine ⟨?_, ?_, ?_, ?_, ?_⟩
  · intro part hpart
    rcases List.mem_append.1 hpart with mem | mem
    · obtain ⟨i, hi, rfl⟩ := List.getElem_of_mem mem
      exact ⟨_, ht.get hi (by rw [← ht.length_eq]; exact hi)⟩
    · obtain ⟨i, hi, rfl⟩ := List.getElem_of_mem mem
      exact ⟨_, hb.get hi (by rw [← hb.length_eq]; exact hi)⟩
  · intro i decides
    obtain ⟨block, block_at, run_eq, -⟩ := decides.run_choose ht hb enough
    refine ⟨block, block_at, run_eq rfl, ?_⟩
    intro conditions' blocks' compiled' shape' compiles' same block_at'
    obtain ⟨tests', bodies', ht', hb', rfl⟩ := Formula.compile_conditional_eq_ok compiles'
    obtain ⟨block', block'_at, run_eq', -⟩ := (decides.congr same).run_choose ht' hb'
      (by have := shape'.2; omega)
    obtain rfl : block' = block := by simpa [block'_at] using block_at'
    rw [run_eq rfl, run_eq' rfl, same]
  · intro i e decides
    obtain ⟨-, -, -, run_eq⟩ := decides.run_choose ht hb enough
    exact run_eq e rfl
  · exact fun all => run_choose_all_false all ht hb shape.2
  · rcases decides_or_all_false setting conditions scope with ⟨i, r, not_false, h⟩ | h
    · cases r with
      | error e => exact .inr (.inl ⟨i, e, h⟩)
      | ok b =>
        cases b with
        | false => exact absurd rfl not_false
        | true => exact .inl ⟨i, h⟩
    · exact .inr (.inr h)

/-- The second condition sets a variable that its block reads; the third one would fail. -/
theorem conditional_runs_second_block :
    ∃ compiled, (Formula.conditional
        [.constant (.bool false), .assignTo "x" (.constant (.bool true)), .symbol "y"]
        [.symbol "y", .symbol "x", .symbol "y"]).Shape ∧
      Setting.Compiles {} (.conditional
        [.constant (.bool false), .assignTo "x" (.constant (.bool true)), .symbol "y"]
        [.symbol "y", .symbol "x", .symbol "y"]) compiled ∧
      Setting.run {} compiled {} = (.ok (some (.bool true)), ⟨[("x", .bool true)]⟩) := by
  have shape : (Formula.conditional
      [.constant (.bool false), .assignTo "x" (.constant (.bool true)), .symbol "y"]
      [.symbol "y", .symbol "x", .symbol "y"]).Shape := ⟨by simp, by simp⟩
  refine ⟨_, shape, rfl, ?_⟩
  obtain ⟨-, chosen, -⟩ := @conditional_runs_first_true {} _ _ _ shape rfl {}
  obtain ⟨block, block_at, run_eq, -⟩ := chosen 1 ⟨rfl, fun j hj => by
    obtain rfl : j = 0 := by omega
    rfl⟩
  obtain rfl : Formula.symbol "x" = block := by simpa using block_at
  exact run_eq

end FormulaTree
