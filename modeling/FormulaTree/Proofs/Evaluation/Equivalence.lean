import FormulaTree.Proofs.Evaluation.Alike
import FormulaTree.Proofs.Formula.Pass
import FormulaTree.Proofs.Formula.Sound

/-!
# Formulas with the same meaning

Two formulas are equivalent when they compile to runs that cannot be told apart, or fail to compile
with the same error. A formula keeps its meaning when its parts are replaced by equivalent ones
(`compile_withParts`), so a transformation that changes every node into an equivalent one gives a
formula that is equivalent to the whole (`transform_keeps_meaning`).
-/

set_option autoImplicit false

namespace FormulaTree.Formula

variable {library : Library} {params : List String}

/-- Compiling gives the same error for both formulas, or two runs with the same outcome and the same
scope after it, whatever they are given. -/
def Equivalent (library : Library) (params : List String) (a b : Formula) : Prop :=
  (∃ e, a.compile library params = .error e ∧ b.compile library params = .error e) ∨
    ∃ run run', a.compile library params = .ok run ∧ b.compile library params = .ok run' ∧
      ∀ args context scope, exec (run args context) scope = exec (run' args context) scope

theorem equivalent_iff {a b : Formula} :
    Equivalent library params a b ↔ a.compile library params = b.compile library params := by
  constructor
  · rintro (⟨e, failed, failed'⟩ | ⟨run, run', compiled, compiled', same⟩)
    · rw [failed, failed']
    · have runs : run = run' :=
        funext fun args => funext fun context => exec_ext (same args context)
      rw [compiled, compiled', runs]
  · intro same
    cases compiled : a.compile library params with
    | error e => exact .inl ⟨e, compiled, same.symm.trans compiled⟩
    | ok run => exact .inr ⟨run, run, compiled, same.symm.trans compiled, fun _ _ _ => rfl⟩

/-- With distinct values for two names, in the scope as well as among the arguments, no symbol of
the one name does what a symbol of the other does. -/
theorem eq_of_compile_symbol_eq {x y : String}
    (same : compile library params (.symbol x) = compile library params (.symbol y)) : x = y := by
  by_contra other
  let values : List (String × Value) := [(x, .bool true), (y, .bool false)]
  let setting : Setting := ⟨library, params, ⟨values⟩, {}⟩
  have found_x : setting.lookUp x ⟨values⟩ = some (.bool true) := by
    simp [setting, values, Setting.lookUp, Args.get?, Scope.get?, Bindings.get?]
  have found_y : setting.lookUp y ⟨values⟩ = some (.bool false) := by
    simp [setting, values, Setting.lookUp, Args.get?, Scope.get?, Bindings.get?, other]
  obtain ⟨run, compiles⟩ : ∃ run, setting.Compiles (.symbol x) run := by
    unfold Setting.Compiles compile
    split <;> exact ⟨_, rfl⟩
  have compiles' : setting.Compiles (.symbol y) run := same.symm.trans compiles
  have run_x := compiles.run_eq ⟨values⟩
  have run_y := compiles'.run_eq ⟨values⟩
  rw [exec_interpret_symbol, found_x] at run_x
  rw [exec_interpret_symbol, found_y] at run_y
  rw [run_x] at run_y
  simp at run_y

section congruence

/-- The second formula compiles to what the first compiles to. -/
def SameMeaning (library : Library) (params : List String) (a b : Formula) : Prop :=
  b.compile library params = a.compile library params

theorem compileAll_congr {formulas formulas' : List Formula}
    (h : List.Forall₂ (SameMeaning library params) formulas formulas') :
    compileAll library params formulas' = compileAll library params formulas := by
  induction h with
  | nil => rfl
  | cons first _ ih => rw [compileAll, compileAll, first, ih]

theorem compileStatements_congr {statements : List (Formula × Bool)} {parts : List Formula}
    (h : List.Forall₂ (SameMeaning library params) (statements.map Prod.fst) parts) :
    compileStatements library params (parts.zip (statements.map Prod.snd))
      = compileStatements library params statements := by
  induction statements generalizing parts with
  | nil =>
    cases h
    rfl
  | cons entry rest ih =>
    obtain ⟨statement, visible⟩ := entry
    cases h with
    | cons first later =>
      rw [List.map_cons, List.zip_cons_cons, compileStatements, compileStatements, first, ih later]

/-- What holds of the parts of a conditional and the parts that replace them holds of its conditions
and of its blocks. -/
theorem forall₂_unbraid {related : Formula → Formula → Prop} {index : Nat}
    {conditions blocks parts : List Formula}
    (count : blocks.length = conditions.length ∨ blocks.length = conditions.length + 1)
    (h : List.Forall₂ related ((branches index conditions blocks).map Prod.snd) parts) :
    List.Forall₂ related conditions (unbraid conditions.length parts).1 ∧
      List.Forall₂ related blocks (unbraid conditions.length parts).2 := by
  fun_induction branches index conditions blocks generalizing parts with
  | case1 index test tests body bodies ih =>
    cases h with
    | cons first h =>
      cases h with
      | cons second later =>
        obtain ⟨conditions, blocks⟩ := ih (by simpa using count) later
        exact ⟨.cons first conditions, .cons second blocks⟩
  | case2 index body => exact ⟨.nil, h⟩
  | case3 conditions index blocks paired single =>
    obtain ⟨rfl, rfl⟩ := nil_of_unpaired paired single count
    exact ⟨.nil, h⟩

/-- A formula with parts that mean what its own parts mean, each in its place, means what the
formula means. The target of an assignment is not run but gives its name, and only the same symbol
means what a symbol means. -/
theorem compile_withParts {formula current : Formula} {parts : List Formula}
    (shape : formula.Shape)
    (same : List.Forall₂ (SameMeaning library params) (formula.children.map Prod.snd) parts)
    (made : formula.withParts parts = .ok current) :
    SameMeaning library params formula current := by
  unfold SameMeaning
  cases formula with
  | constant value | symbol name =>
    cases made
    rfl
  | assignment target value =>
    cases same with
    | cons first later =>
      cases later with
      | cons second later =>
        cases later
        obtain ⟨rfl, shape'⟩ := checkedAssignment_shape made
        rename_i target' value'
        cases target with
        | symbol name =>
          cases target' with
          | symbol name' =>
            obtain rfl : name' = name := eq_of_compile_symbol_eq first
            rw [compile, compile, second]
          | _ => cases shape'
        | _ => cases shape
  | block statements =>
    obtain ⟨rfl, -⟩ := checkedBlock_shape made
    rw [children, map_snd_numbered] at same
    rw [compile, compile, compileStatements_congr same]
  | operation op function operands =>
    obtain ⟨rfl, -⟩ := checkedOperation_shape made
    rw [children, map_snd_numbered] at same
    rw [compile, compile, compileAll_congr same]
  | parenthesis content =>
    cases same with
    | cons first later =>
      cases later
      cases made
      rw [compile, compile]
      exact first
  | call function arguments =>
    cases made
    rw [children, map_snd_numbered] at same
    rw [compile, compile, compileAll_congr same]
  | conditional conditions blocks =>
    obtain ⟨rfl, -⟩ := checkedConditional_shape made
    obtain ⟨tests, bodies⟩ := forall₂_unbraid shape.2 same
    rw [compile, compile, compileAll_congr tests, compileAll_congr bodies]

end congruence

section transform

/-- The content of a parenthesis in its place; every other formula stays as it is. -/
def unwrapped : Formula → Formula
  | .parenthesis content => content
  | formula => formula

def asCall : Formula → Formula
  | .operation _ function operands => .call function operands
  | formula => formula

theorem unwrapped_sameMeaning (formula : Formula) :
    SameMeaning library params formula formula.unwrapped := by
  cases formula with
  | parenthesis content => exact (compile.eq_6 ..).symm
  | _ => rfl

theorem asCall_sameMeaning (formula : Formula) :
    SameMeaning library params formula formula.asCall := by
  cases formula with
  | operation op function operands => exact (compile.eq_7 ..).trans (compile.eq_5 ..).symm
  | _ => rfl

theorem wellFormed_unwrapped {formula : Formula} (h : formula.WellFormed) :
    formula.unwrapped.WellFormed := by
  cases h with
  | intro formula shape parts =>
    cases formula with
    | parenthesis content => exact parts (.content, content) (by simp [children])
    | _ => exact .intro _ shape parts

theorem wellFormed_asCall {formula : Formula} (h : formula.WellFormed) :
    formula.asCall.WellFormed := by
  cases h with
  | intro formula shape parts =>
    cases formula with
    | operation op function operands => exact .intro (.call function operands) trivial parts
    | _ => exact .intro _ shape parts

variable {change : Visit → Except Error Formula}

theorem rewrite_sameMeaning
    (keeps : ∀ visit answer, visit.formula.WellFormed → change visit = .ok answer →
      answer.WellFormed ∧ SameMeaning library params visit.formula answer)
    {formula result : Formula} (h : formula.WellFormed) {address : List Position}
    {parent : Option Formula} (rewritten : formula.rewrite change address parent = .ok result) :
    result.WellFormed ∧ SameMeaning library params formula result := by
  refine rewrite_relates
    (fun node answer => answer.WellFormed ∧ SameMeaning library params node answer) ?_ h rewritten
  intro formula current answer parts address parent shape became made changed
  have same :
      List.Forall₂ (SameMeaning library params) (formula.children.map Prod.snd) parts := by
    rw [List.forall₂_map_left_iff]
    exact became.imp fun child part both => both.2
  have parts_wellFormed : ∀ part ∈ parts, part.WellFormed := by
    intro part mem
    obtain ⟨child, -, both⟩ := exists_of_forall₂ became part mem
    exact both.1
  have rebuilt := compile_withParts shape same made
  have wellFormed := wellFormed_of_withParts shape became.length_eq.symm parts_wellFormed made
  obtain ⟨answered, kept⟩ := keeps _ _ wellFormed changed
  exact ⟨answered, kept.trans rebuilt⟩

/-- Nothing stops a rewriting in which every change succeeds and symbols stay symbols. -/
theorem exists_rewrite (total : ∀ visit, ∃ answer, change visit = .ok answer)
    (symbols : ∀ visit answer, change visit = .ok answer → visit.formula.kind = .symbol →
      answer.kind = .symbol)
    {formula : Formula} (h : formula.WellFormed) (address : List Position)
    (parent : Option Formula) : ∃ result, formula.rewrite change address parent = .ok result := by
  induction h generalizing address parent with
  | intro formula shape _ ih =>
    obtain ⟨parts, replaced⟩ := mapM_isOk_iff.2 fun child mem =>
      ih child mem (child.1 :: address) (some formula)
    obtain ⟨current, made⟩ : ∃ current, formula.withParts parts = .ok current := by
      cases made : formula.withParts parts with
      | ok current => exact ⟨current, rfl⟩
      | error e =>
        have count := (mapM_eq_ok.1 replaced).length_eq.symm
        obtain ⟨target, value, target', value', rfl, rfl, other, -⟩ :=
          withParts_eq_error shape count made
        cases mapM_eq_ok.1 replaced with
        | cons first _ =>
          cases target with
          | symbol name =>
            rw [rewrite] at first
            exact absurd (symbols _ _ first rfl) other
          | _ => cases shape
    obtain ⟨answer, changed⟩ := total ⟨current, address, parent⟩
    exact ⟨answer, by rw [rewrite_eq, replaced, ok_bind, made, ofExcept_eq, ok_bind, changed]⟩

theorem exists_transform {change : Formula → Formula}
    (symbols : ∀ name, (change (.symbol name)).kind = .symbol) {formula : Formula}
    (h : formula.WellFormed) :
    ∃ result, formula.transform (m := Except Error) (fun visit => .ok (change visit.formula))
      = .ok result := by
  rw [transform, transformAt_eq_rewrite h]
  refine exists_rewrite (fun visit => ⟨_, rfl⟩) ?_ h [] none
  rintro ⟨formula, address, parent⟩ _ ⟨⟩ isSymbol
  cases formula with
  | symbol name => exact symbols name
  | _ => cases isSymbol

theorem transform_equivalent {formula result : Formula} (h : formula.WellFormed)
    (keeps : ∀ visit answer, visit.formula.WellFormed → change visit = .ok answer →
      answer.WellFormed ∧ Equivalent library params visit.formula answer)
    (transformed : formula.transform change = .ok result) :
    Equivalent library params formula result := by
  rw [transform, transformAt_eq_rewrite h] at transformed
  refine equivalent_iff.2 (rewrite_sameMeaning (fun visit answer sound changed => ?_) h
    transformed).2.symm
  obtain ⟨wellFormed, same⟩ := keeps visit answer sound changed
  exact ⟨wellFormed, (equivalent_iff.1 same).symm⟩

/-- A transformation keeps what a formula means when each of its changes of a well-formed node gives
a well-formed one and keeps what it means, wherever the node stands. Taking all parentheses away is
such a transformation, and so is writing every operation as a call; neither ever fails. -/
theorem transform_keeps_meaning (library : Library) (params : List String) {formula : Formula}
    (h : formula.WellFormed) :
    (∀ change : Visit → Except Error Formula,
      (∀ visit answer, visit.formula.WellFormed → change visit = .ok answer →
        answer.WellFormed ∧ Equivalent library params visit.formula answer) →
      ∀ result, formula.transform change = .ok result →
        Equivalent library params formula result) ∧
    (∃ result,
      formula.transform (m := Except Error) (fun visit => .ok visit.formula.unwrapped)
        = .ok result ∧
      Equivalent library params formula result) ∧
    ∃ result,
      formula.transform (m := Except Error) (fun visit => .ok visit.formula.asCall) = .ok result ∧
      Equivalent library params formula result := by
  refine ⟨fun change keeps result transformed => transform_equivalent h keeps transformed, ?_, ?_⟩
  · obtain ⟨result, transformed⟩ := @exists_transform unwrapped (fun _ => rfl) formula h
    refine ⟨result, transformed, transform_equivalent h ?_ transformed⟩
    rintro visit _ sound ⟨⟩
    exact ⟨wellFormed_unwrapped sound, equivalent_iff.2 (unwrapped_sameMeaning _).symm⟩
  · obtain ⟨result, transformed⟩ := @exists_transform asCall (fun _ => rfl) formula h
    refine ⟨result, transformed, transform_equivalent h ?_ transformed⟩
    rintro visit _ sound ⟨⟩
    exact ⟨wellFormed_asCall sound, equivalent_iff.2 (asCall_sameMeaning _).symm⟩

/-- Parentheses around every node but the symbols, so the target of the assignment stays bare. -/
theorem transform_keeps_meaning_brackets :
    let formula := block [(assignTo "x" (binary "+" "add" (symbol "y") (constant .null)), true)]
    let change (visit : Visit) : Except Error Formula :=
      .ok (if visit.formula.kind = .symbol then visit.formula else parenthesis visit.formula)
    let result := parenthesis (block [(parenthesis (assignTo "x" (parenthesis
      (binary "+" "add" (symbol "y") (parenthesis (constant .null))))), true)])
    formula.WellFormed ∧ formula.transform change = .ok result ∧
      Equivalent (({} : Library).loadPrelude) ["y"] formula result := by
  intro formula change result
  have wellFormed : formula.WellFormed := by
    refine Sound.wellFormed ?_
    simp [formula, assignTo, binary, sound_block_iff, sound_assignment_iff, sound_operation_iff,
      sound_constant_iff, sound_symbol, kind, Value.Keyed]
  have transformed : formula.transform change = .ok result := by
    rw [transform, transformAt_eq_rewrite wellFormed]
    simp [formula, change, result, assignTo, binary, rewrite, rewriteStatements, rewriteArguments,
      ok_bind, checkedAssignment, checkedOperation, checkedBlock, kind, pure, Except.pure]
  have keeps : ∀ visit answer, visit.formula.WellFormed → change visit = .ok answer →
      answer.WellFormed ∧
        Equivalent (({} : Library).loadPrelude) ["y"] visit.formula answer := by
    rintro visit _ sound ⟨⟩
    rw [equivalent_iff]
    split
    · exact ⟨sound, rfl⟩
    · have bracketed : (parenthesis visit.formula).WellFormed :=
        .intro _ trivial (List.forall_mem_singleton.2 sound)
      exact ⟨bracketed, by rw [compile]⟩
  exact ⟨wellFormed, transformed,
    (transform_keeps_meaning _ ["y"] wellFormed).1 change keeps result transformed⟩

end transform

end FormulaTree.Formula
