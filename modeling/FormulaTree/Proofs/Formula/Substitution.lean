import FormulaTree.Evaluation.Compile
import FormulaTree.Proofs.Formula.Pass

set_option autoImplicit false

namespace FormulaTree

def Visit.substituted (rename : String → String) (replace : String → Formula) (visit : Visit) :
    Formula :=
  match visit.formula with
  | .symbol name =>
    if visit.position = some .target then .symbol (rename name) else replace name
  | other => other

theorem Visit.substituted_target (rename : String → String) (replace : String → Formula)
    (name : String) (address : List Formula.Position) (parent : Option Formula) :
    Visit.substituted rename replace ⟨.symbol name, .target :: address, parent⟩
      = .symbol (rename name) := rfl

namespace Formula

mutual

def substitute (rename : String → String) (replace : String → Formula) : Formula → Formula
  | .constant value => .constant value
  | .symbol name => replace name
  | .assignment target value =>
    .assignment (.symbol (rename target.targetName)) (substitute rename replace value)
  | .block statements => .block (substituteStatements rename replace statements)
  | .operation op function operands =>
    .operation op function (substituteAll rename replace operands)
  | .parenthesis content => .parenthesis (substitute rename replace content)
  | .call function arguments => .call function (substituteAll rename replace arguments)
  | .conditional conditions blocks =>
    .conditional (substituteAll rename replace conditions) (substituteAll rename replace blocks)

def substituteAll (rename : String → String) (replace : String → Formula) :
    List Formula → List Formula
  | [] => []
  | formula :: rest => substitute rename replace formula :: substituteAll rename replace rest

def substituteStatements (rename : String → String) (replace : String → Formula) :
    List (Formula × Bool) → List (Formula × Bool)
  | [] => []
  | (statement, visible) :: rest =>
    (substitute rename replace statement, visible) :: substituteStatements rename replace rest

end

variable {m : Type → Type} [Monad m] [LawfulMonad m] [MonadExcept Error m]
  {rename : String → String} {replace : String → Formula}

/-- Rewriting the formula symbol by symbol, anywhere but at the target of an assignment. -/
def Substitutes (m : Type → Type) [Monad m] [MonadExcept Error m] (rename : String → String)
    (replace : String → Formula) (formula : Formula) : Prop :=
  ∀ (address : List Position) (parent : Option Formula), address.head? ≠ some .target →
    formula.rewrite (fun visit => pure (visit.substituted rename replace)) address parent
      = (pure (formula.substitute rename replace) : m Formula)

theorem rewriteArguments_substituted {operands : List Formula} {start : Nat}
    (h : ∀ child ∈ numbered .argument start operands, Substitutes m rename replace child.2)
    (address : List Position) (self : Formula) :
    rewriteArguments (fun visit => pure (visit.substituted rename replace)) address self start
      operands = (pure (substituteAll rename replace operands) : m (List Formula)) := by
  induction operands generalizing start with
  | nil => rw [rewriteArguments, substituteAll]
  | cons operand rest ih =>
    obtain ⟨first, later⟩ := List.forall_mem_cons.1 h
    rw [rewriteArguments, first _ _ (by simp), ih later]
    simp [substituteAll]

theorem rewriteStatements_substituted {statements : List (Formula × Bool)} {start : Nat}
    (h : ∀ child ∈ numbered .statement start (statements.map Prod.fst),
      Substitutes m rename replace child.2)
    (address : List Position) (self : Formula) :
    rewriteStatements (fun visit => pure (visit.substituted rename replace)) address self start
      statements = (pure (substituteStatements rename replace statements) :
        m (List (Formula × Bool))) := by
  induction statements generalizing start with
  | nil => rw [rewriteStatements, substituteStatements]
  | cons entry rest ih =>
    obtain ⟨first, later⟩ := List.forall_mem_cons.1 h
    rw [rewriteStatements, first _ _ (by simp), ih later]
    simp [substituteStatements]

theorem rewriteBranches_substituted {conditions blocks : List Formula} {index : Nat}
    (count : blocks.length = conditions.length ∨ blocks.length = conditions.length + 1)
    (h : ∀ child ∈ branches index conditions blocks, Substitutes m rename replace child.2)
    (address : List Position) (self : Formula) :
    rewriteBranches (fun visit => pure (visit.substituted rename replace)) address self index
      conditions blocks = (pure (substituteAll rename replace conditions,
        substituteAll rename replace blocks) : m (List Formula × List Formula)) := by
  fun_induction branches index conditions blocks with
  | case1 index test tests body bodies ih =>
    obtain ⟨first, rest⟩ := List.forall_mem_cons.1 h
    obtain ⟨second, later⟩ := List.forall_mem_cons.1 rest
    rw [rewriteBranches, first _ _ (by cases index <;> simp [Position.condition]),
      second _ _ (by cases index <;> simp [Position.block]), ih (by simpa using count) later]
    simp [substituteAll]
  | case2 index body =>
    have only := h (.elseBlock, body) List.mem_cons_self
    rw [rewriteBranches, only _ _ (by simp)]
    simp [substituteAll]
  | case3 conditions index blocks paired single =>
    obtain ⟨rfl, rfl⟩ := nil_of_unpaired paired single count
    rw [rewriteBranches.eq_3 _ _ _ _ _ _ paired single]
    rfl

theorem substituteAll_eq_map (formulas : List Formula) :
    substituteAll rename replace formulas = formulas.map (substitute rename replace) := by
  induction formulas with
  | nil => rfl
  | cons formula rest ih => rw [substituteAll, ih, List.map_cons]

theorem substituteStatements_eq_map (statements : List (Formula × Bool)) :
    substituteStatements rename replace statements
      = statements.map (Prod.map (substitute rename replace) id) := by
  induction statements with
  | nil => rfl
  | cons entry rest ih =>
    rw [substituteStatements, ih, List.map_cons]
    rfl

theorem length_substituteAll (formulas : List Formula) :
    (substituteAll rename replace formulas).length = formulas.length := by
  rw [substituteAll_eq_map, List.length_map]

/-- A substitution keeps the number of the parts and puts a symbol for each target. -/
theorem shape_substitute {formula : Formula} (shape : formula.Shape)
    (other : formula.kind ≠ .symbol) : (formula.substitute rename replace).Shape := by
  cases formula with
  | constant value => trivial
  | symbol name => exact absurd rfl other
  | assignment target value => rfl
  | block statements =>
    cases statements with
    | nil => exact absurd rfl shape
    | cons entry rest => exact List.cons_ne_nil _ _
  | operation op function operands =>
    rw [substitute, Shape, length_substituteAll]
    exact shape
  | parenthesis content => trivial
  | call function arguments => trivial
  | conditional conditions blocks =>
    rw [substitute, Shape, ← List.length_pos_iff, length_substituteAll, length_substituteAll,
      List.length_pos_iff]
    exact shape

theorem rewrite_substituted {formula : Formula} (h : formula.WellFormed) :
    Substitutes m rename replace formula := by
  induction h with
  | intro formula shape _ ih =>
    intro address parent read
    cases formula with
    | constant value => rw [rewrite]; rfl
    | symbol name =>
      rw [rewrite, Visit.substituted, substitute]
      exact congrArg _ (if_neg read)
    | assignment target value =>
      obtain ⟨value_child, -⟩ := List.forall_mem_cons.1 (List.forall_mem_cons.1 ih).2
      cases target with
      | symbol name =>
        rw [rewrite, rewrite, Visit.substituted_target, pure_bind, value_child _ _ (by simp),
          pure_bind]
        exact pure_bind _ _
      | _ => cases shape
    | block statements =>
      have checked : checkedBlock (substituteStatements rename replace statements) = .ok _ :=
        checkedBlock_eq_ok (shape_substitute shape (by simp [kind]))
      rw [rewrite, rewriteStatements_substituted ih, pure_bind, checked]
      exact pure_bind _ _
    | operation op function operands =>
      have checked : checkedOperation op function (substituteAll rename replace operands) = .ok _ :=
        checkedOperation_eq_ok (shape_substitute shape (by simp [kind]))
      rw [rewrite, rewriteArguments_substituted ih, pure_bind, checked]
      exact pure_bind _ _
    | parenthesis content =>
      have inner := ih (.content, content) List.mem_cons_self
      rw [rewrite, inner _ _ (by simp), pure_bind]
      rfl
    | call function arguments =>
      rw [rewrite, rewriteArguments_substituted ih, pure_bind]
      rfl
    | conditional conditions blocks =>
      have checked : checkedConditional (substituteAll rename replace conditions)
          (substituteAll rename replace blocks) = .ok _ :=
        checkedConditional_eq_ok (shape_substitute shape (by simp [kind]))
      rw [rewrite, rewriteBranches_substituted shape.2 ih, pure_bind]
      simp only [checked]
      exact pure_bind _ _

/-- Transforming a well-formed formula symbol by symbol succeeds and is the substitution. -/
theorem transform_substituted {formula : Formula} (h : formula.WellFormed) :
    formula.transform (fun visit => pure (visit.substituted rename replace))
      = (pure (formula.substitute rename replace) : m Formula) := by
  rw [transform, transformAt_eq_rewrite h]
  exact rewrite_substituted h [] none (by simp)

end Formula

end FormulaTree
