import FormulaTree.Proofs.Evaluation.Interpreter
import FormulaTree.Proofs.Formula.Nodes
import FormulaTree.Proofs.Formula.Sound

set_option autoImplicit false

namespace FormulaTree

namespace Formula

mutual

/-- Some run might come to nothing, as far as the form of the formula tells. -/
def absentable : Formula → Bool
  | .parenthesis content => absentable content
  | .conditional conditions blocks => (elseBlock? conditions blocks).isNone || anyAbsentable blocks
  | .constant _ => false
  | .symbol _ => false
  | .assignment _ _ => false
  | .block _ => false
  | .operation _ _ _ => false
  | .call _ _ => false

def anyAbsentable : List Formula → Bool
  | [] => false
  | formula :: rest => absentable formula || anyAbsentable rest

end

theorem anyAbsentable_iff {formulas : List Formula} :
    anyAbsentable formulas = true ↔ ∃ formula ∈ formulas, formula.absentable = true := by
  induction formulas with
  | nil => simp [anyAbsentable]
  | cons formula rest ih => simp [anyAbsentable, ih]

theorem absentable_conditional_iff {conditions blocks : List Formula} :
    (conditional conditions blocks).absentable = true ↔
      elseBlock? conditions blocks = none ∨ ∃ block ∈ blocks, block.absentable = true := by
  rw [absentable, Bool.or_eq_true, anyAbsentable_iff, Option.isNone_iff_eq_none]

theorem mem_children_of_mem_blocks {conditions blocks : List Formula}
    (shape : (conditional conditions blocks).Shape) {block : Formula} (h : block ∈ blocks) :
    ∃ child ∈ (conditional conditions blocks).children, child.2 = block := by
  have all := (branches_perm 0 shape.2).mem_iff.2 (List.mem_append_right _ h)
  exact List.mem_map.1 all

theorem exists_without_else {formula : Formula} (h : formula.WellFormed)
    (absent : formula.absentable = true) :
    ∃ conditions blocks, .conditional conditions blocks ∈ formula.nodes ∧
      elseBlock? conditions blocks = none := by
  induction h with
  | intro formula shape _ ih =>
    cases formula with
    | parenthesis content =>
      obtain ⟨conditions, blocks, mem, without⟩ :=
        ih (.content, content) (by simp [children]) absent
      exact ⟨conditions, blocks, by simp [mem], without⟩
    | conditional conditions blocks =>
      rcases absentable_conditional_iff.1 absent with without | ⟨block, mem, absent⟩
      · exact ⟨conditions, blocks, mem_nodes_self _, without⟩
      · obtain ⟨child, mem_child, rfl⟩ := mem_children_of_mem_blocks shape mem
        obtain ⟨conditions, blocks, mem, without⟩ := ih child mem_child absent
        exact ⟨conditions, blocks, nodes_subset_of_mem_children mem_child mem, without⟩
    | _ => simp [absentable] at absent

end Formula

variable {setting : Setting}

/-- A run of the computation comes to nothing only if the condition holds. -/
def AbsentOnlyIf (condition : Prop) (x : Run (Option Value)) : Prop :=
  ∀ scope, (exec x scope).1 = .ok none → condition

namespace AbsentOnlyIf

variable {α : Type} {p q : Prop}

theorem mono {x : Run (Option Value)} (h : AbsentOnlyIf p x) (imp : p → q) : AbsentOnlyIf q x :=
  fun scope absent => imp (h scope absent)

theorem pure (value : Value) : AbsentOnlyIf p (Pure.pure (some value)) :=
  fun _ absent => nomatch absent

theorem bind {x : Run α} {f : α → Run (Option Value)} (next : ∀ a, AbsentOnlyIf p (f a)) :
    AbsentOnlyIf p (x >>= f) := by
  intro scope absent
  rw [exec_bind] at absent
  rcases run : exec x scope with ⟨r, after⟩
  rw [run] at absent
  cases r with
  | error e => cases absent
  | ok a => exact next a after absent

theorem callNamed (function : String) (arguments : List Value) :
    AbsentOnlyIf p (setting.callNamed function arguments) := by
  refine bind fun f => ?_
  intro scope absent
  rw [exec_map] at absent
  obtain ⟨value, -, none⟩ := map_eq_ok.1 absent
  cases none

theorem symbol (name : String) : AbsentOnlyIf p (Formula.interpret setting (.symbol name)) := by
  rw [Formula.interpret]
  refine bind fun scope => ?_
  cases setting.lookUp name scope with
  | none =>
    intro scope absent
    cases absent
  | some value => exact pure value

/-- Nothing comes out when the blocks have run out, or out of the block that runs. -/
theorem branches {conditions blocks : List Formula}
    (count : blocks.length ≤ conditions.length + 1)
    (each : ∀ block ∈ blocks, AbsentOnlyIf (block.absentable = true) (block.interpret setting)) :
    AbsentOnlyIf (blocks.length ≤ conditions.length ∨ ∃ block ∈ blocks, block.absentable = true)
      (Formula.interpretBranches setting conditions blocks) := by
  induction conditions generalizing blocks with
  | nil =>
    rcases blocks with - | ⟨body, - | ⟨_, _⟩⟩
    · exact fun _ _ => .inl (Nat.le_refl _)
    · rw [Formula.interpretBranches]
      exact (each body List.mem_cons_self).mono fun absent => .inr ⟨body, by simp, absent⟩
    · simp at count
  | cons test tests ih =>
    cases blocks with
    | nil => exact fun _ _ => .inl (Nat.zero_le _)
    | cons body bodies =>
      obtain ⟨first, later⟩ := List.forall_mem_cons.1 each
      rw [Formula.interpretBranches]
      refine bind fun outcome => bind fun truth => ?_
      cases truth with
      | true => exact first.mono fun absent => .inr ⟨body, by simp, absent⟩
      | false =>
        refine (ih (by simpa using count) later).mono fun absent => ?_
        rcases absent with short | ⟨block, mem, absent⟩
        · exact .inl (by simpa using short)
        · exact .inr ⟨block, List.mem_cons_of_mem _ mem, absent⟩

/-- A part whose outcome is not the outcome of the formula plays no role, so the induction is asked
only for the content of parentheses and for blocks. -/
theorem interpret {formula : Formula} (h : formula.WellFormed) :
    AbsentOnlyIf (formula.absentable = true) (formula.interpret setting) := by
  induction h with
  | intro formula shape _ ih =>
    cases formula with
    | constant value =>
      rw [Formula.interpret]
      exact pure value
    | symbol name => exact symbol name
    | assignment target value =>
      rw [Formula.interpret]
      exact bind fun outcome => bind fun _ => pure _
    | block statements =>
      rw [Formula.interpret]
      exact bind fun results => pure _
    | operation op function operands =>
      rw [Formula.interpret]
      exact bind fun values => callNamed function values
    | parenthesis content =>
      rw [Formula.interpret]
      exact ih (.content, content) (by simp [Formula.children])
    | call function arguments =>
      rw [Formula.interpret]
      exact bind fun values => callNamed function values
    | conditional conditions blocks =>
      have each : ∀ block ∈ blocks,
          AbsentOnlyIf (block.absentable = true) (block.interpret setting) := by
        intro block mem
        obtain ⟨child, mem_child, rfl⟩ := Formula.mem_children_of_mem_blocks shape mem
        exact ih child mem_child
      have count : blocks.length ≤ conditions.length + 1 := by
        have := shape.2
        omega
      rw [Formula.interpret]
      refine (branches count each).mono fun absent => ?_
      rw [Formula.absentable_conditional_iff, Formula.elseBlock?_eq_none_iff]
      exact absent

end AbsentOnlyIf

/-- The formulas run one after the other, each on the scope that those before it left, and come to
these outcomes. -/
inductive Setting.Outcomes (setting : Setting) :
    List Formula → Scope → List (Option Value) → Scope → Prop where
  | nil (scope : Scope) : Outcomes setting [] scope [] scope
  | cons {formula : Formula} {rest : List Formula} {outcome : Option Value}
    {outcomes : List (Option Value)} {scope between after : Scope}
    (first : formula.runIn setting scope = (.ok outcome, between))
    (later : Outcomes setting rest between outcomes after) :
    Outcomes setting (formula :: rest) scope (outcome :: outcomes) after

theorem Setting.Outcomes.values {operands : List Formula} {compiled : List Compiled}
    {outcomes : List (Option Value)} {scope after : Scope}
    (h : setting.Outcomes operands scope outcomes after)
    (compiles : List.Forall₂ setting.Compiles operands compiled) :
    exec (Compiled.values setting.args setting.context compiled) scope
      = (.ok (outcomes.map Compiled.orNull), after) := by
  induction h generalizing compiled with
  | nil scope =>
    cases compiles
    rfl
  | cons first _ ih =>
    cases compiles with
    | cons compiles_first compiles_later =>
      rw [Setting.Compiles.runIn compiles_first] at first
      rw [Compiled.values, exec_bind_ok first, exec_bind_ok (ih compiles_later)]
      rfl

theorem Setting.Compiles.assignment {target value : Formula} {compiled : Compiled}
    (h : setting.Compiles (.assignment target value) compiled) {scope between : Scope}
    {outcome : Option Value} (run : value.runIn setting scope = (.ok outcome, between)) :
    setting.run compiled scope = (.ok (some (Compiled.orNull outcome)),
      between.set target.targetName (Compiled.orNull outcome)) := by
  obtain ⟨assigned, compiles, h⟩ := bind_eq_ok.1 h
  cases h
  rw [Setting.Compiles.runIn compiles] at run
  rw [Setting.run, Compiled.assign, exec_bind_ok run]
  rfl

theorem run_apply {f : Builtin} {operands : List Formula} {compiled : List Compiled}
    (compiles : List.Forall₂ setting.Compiles operands compiled)
    {outcomes : List (Option Value)} {scope after : Scope}
    (h : setting.Outcomes operands scope outcomes after) :
    setting.run (.apply f compiled) scope
      = (some <$> f.call (outcomes.map Compiled.orNull), after) := by
  rw [Setting.run, Compiled.apply, exec_bind_ok (h.values compiles), exec_map, exec_lift]
  rfl

theorem Setting.Compiles.function {formula : Formula} {compiled : Compiled}
    (h : setting.Compiles formula compiled) {function : String}
    (called : formula.function? = some function) :
    ∃ f, setting.library.resolve function = .ok f ∧ ∀ scope outcomes after,
      setting.Outcomes (formula.children.map Prod.snd) scope outcomes after →
        setting.run compiled scope
          = (some <$> f.call (outcomes.map Compiled.orNull), after) := by
  cases formula with
  | operation op name operands =>
    cases called
    obtain ⟨f, resolved, h⟩ := bind_eq_ok.1 h
    obtain ⟨runs, all, h⟩ := bind_eq_ok.1 h
    cases h
    rw [Formula.children, Formula.map_snd_numbered]
    exact ⟨f, resolved, fun _ _ _ => run_apply (Formula.compiles_of_compileAll all)⟩
  | call name arguments =>
    cases called
    obtain ⟨f, resolved, h⟩ := bind_eq_ok.1 h
    obtain ⟨runs, all, h⟩ := bind_eq_ok.1 h
    cases h
    rw [Formula.children, Formula.map_snd_numbered]
    exact ⟨f, resolved, fun _ _ _ => run_apply (Formula.compiles_of_compileAll all)⟩
  | _ => cases called

/-- Only a formula that is a conditional without else up to parentheses and blocks of conditionals
comes to nothing, so none does whose conditionals all have an else block. An assignment sets its
variable to null when its value is absent, and a function gets null for every operand or argument
that is. -/
theorem absent_only_without_else {formula : Formula} {compiled : Compiled}
    (wellFormed : formula.WellFormed) (compiles : setting.Compiles formula compiled) :
    (∀ scope, (setting.run compiled scope).1 = .ok none → formula.absentable = true) ∧
      ((∀ conditions blocks, .conditional conditions blocks ∈ formula.nodes →
        ∃ block, Formula.elseBlock? conditions blocks = some block) →
        ∀ scope, (setting.run compiled scope).1 ≠ .ok none) ∧
      (∀ name value, formula = .assignTo name value → ∀ scope outcome between,
        value.runIn setting scope = (.ok outcome, between) →
        setting.run compiled scope
          = (.ok (some (outcome.getD .null)), between.set name (outcome.getD .null))) ∧
      ∀ function, formula.function? = some function →
        ∃ f, setting.library.resolve function = .ok f ∧ ∀ scope outcomes after,
          setting.Outcomes (formula.children.map Prod.snd) scope outcomes after →
          setting.run compiled scope = (some <$> f.call (outcomes.map (·.getD .null)), after) := by
  have form : ∀ scope, (setting.run compiled scope).1 = .ok none → formula.absentable = true := by
    intro scope absent
    rw [compiles.run_eq] at absent
    exact AbsentOnlyIf.interpret wellFormed scope absent
  refine ⟨form, fun all scope absent => ?_, ?_, fun function called => compiles.function called⟩
  · obtain ⟨conditions, blocks, mem, without⟩ :=
      Formula.exists_without_else wellFormed (form scope absent)
    obtain ⟨block, with_else⟩ := all conditions blocks mem
    cases without.symm.trans with_else
  · rintro name value rfl scope outcome between run
    exact compiles.assignment run

/-- The else block is a conditional without else in parentheses. The function gets the outcome of
the same conditional after that of a variable. -/
theorem absent_only_without_else_nested :
    let setting : Setting :=
      { library := Library.define {} ⟨"f", 2, fun args => .ok (.matrix args)⟩ }
    let inner := Formula.conditional [.symbol "x"] [.constant .null]
    let outer := Formula.conditional [.symbol "x"] [.constant .null, .parenthesis inner]
    let call := Formula.call "f" [.symbol "x", outer]
    outer.WellFormed ∧ call.WellFormed ∧ ∃ compiled compiled',
      setting.Compiles outer compiled ∧ setting.Compiles call compiled' ∧
      (setting.run compiled ⟨[("x", .bool false)]⟩).1 = .ok none ∧ outer.absentable = true ∧
      setting.run compiled' ⟨[("x", .bool false)]⟩
        = (.ok (some (.matrix [.bool false, .null])), ⟨[("x", .bool false)]⟩) := by
  intro setting inner outer call
  have wellFormed : outer.WellFormed :=
    Formula.Sound.wellFormed (by simp [outer, inner, Formula.sound_conditional_iff,
      Formula.sound_symbol, Formula.sound_constant_iff, Formula.sound_parenthesis_iff,
      Formula.Shape, Value.Keyed])
  have wellFormed' : call.WellFormed :=
    Formula.Sound.wellFormed (by simp [call, outer, inner, Formula.sound_conditional_iff,
      Formula.sound_symbol, Formula.sound_constant_iff, Formula.sound_parenthesis_iff,
      Formula.sound_call_iff, Formula.Shape, Value.Keyed])
  have absent : outer.runIn setting ⟨[("x", .bool false)]⟩ = (.ok none, ⟨[("x", .bool false)]⟩) :=
    rfl
  obtain ⟨compiled, compiles⟩ : ∃ compiled, setting.Compiles outer compiled := ⟨_, rfl⟩
  obtain ⟨compiled', compiles'⟩ : ∃ compiled, setting.Compiles call compiled := ⟨_, rfl⟩
  obtain ⟨form, -⟩ := absent_only_without_else wellFormed compiles
  obtain ⟨-, -, -, called⟩ := absent_only_without_else wellFormed' compiles'
  obtain ⟨f, resolved, run⟩ := called "f" rfl
  cases resolved
  have nothing : (setting.run compiled ⟨[("x", .bool false)]⟩).1 = .ok none := by
    rw [← compiles.runIn, absent]
  have operands : setting.Outcomes [.symbol "x", outer] ⟨[("x", .bool false)]⟩
      [some (.bool false), none] ⟨[("x", .bool false)]⟩ :=
    .cons rfl (.cons absent (.nil _))
  exact ⟨wellFormed, wellFormed', compiled, compiled', compiles, compiles', nothing,
    form _ nothing, run _ _ _ operands⟩

end FormulaTree
