import FormulaTree.Error

/-!
# Formulas

A formula is a tree of eight kinds of nodes. Four of them restrict their parts: the target of an
assignment is a symbol, a block has a statement, an operation has one or two operands, and a
conditional has a block for each of its conditions and perhaps one more. The functions that take
arbitrary parts check this; `Formula.Shape` states it.
-/

set_option autoImplicit false

namespace FormulaTree

inductive Formula where
  | constant (value : Value)
  | symbol (name : String)
  | assignment (target value : Formula)
  /-- Statements in order, each with whether its result is visible. -/
  | block (statements : List (Formula × Bool))
  /-- An operator with its written symbol and the function that it stands for. -/
  | operation (op function : String) (operands : List Formula)
  | parenthesis (content : Formula)
  | call (function : String) (arguments : List Formula)
  /-- A block for each condition in turn, then perhaps the block for when none holds. -/
  | conditional (conditions blocks : List Formula)
deriving Inhabited

namespace Formula

def kind : Formula → Kind
  | .constant _ => .constant
  | .symbol _ => .symbol
  | .assignment _ _ => .assignment
  | .block _ => .block
  | .operation _ _ _ => .operation
  | .parenthesis _ => .parenthesis
  | .call _ _ => .call
  | .conditional _ _ => .conditional

/-- What a formula asks of its immediate parts. -/
def Shape : Formula → Prop
  | .assignment target _ => target.kind = .symbol
  | .block statements => statements ≠ []
  | .operation _ _ operands => operands.length = 1 ∨ operands.length = 2
  | .conditional conditions blocks =>
    conditions ≠ []
      ∧ (blocks.length = conditions.length ∨ blocks.length = conditions.length + 1)
  | _ => True

def checkedAssignment (target value : Formula) : Except Error Formula :=
  match target with
  | .symbol name => .ok (.assignment (.symbol name) value)
  | other => .error (.invalidArgument (.target other.kind))

def checkedBlock (statements : List (Formula × Bool)) : Except Error Formula :=
  if statements.isEmpty then .error (.invalidArgument .emptyBlock) else .ok (.block statements)

def checkedOperation (op function : String) (operands : List Formula) : Except Error Formula :=
  if operands.length = 1 ∨ operands.length = 2 then .ok (.operation op function operands)
  else .error (.invalidArgument (.operandCount op operands.length))

def checkedConditional (conditions blocks : List Formula) : Except Error Formula :=
  if conditions.isEmpty then .error (.invalidArgument .noConditions)
  else if blocks.isEmpty then .error (.invalidArgument .noBlocks)
  else if blocks.length = conditions.length ∨ blocks.length = conditions.length + 1 then
    .ok (.conditional conditions blocks)
  else .error (.invalidArgument (.blockCount conditions.length blocks.length))

def assignTo (name : String) (value : Formula) : Formula :=
  .assignment (.symbol name) value

def unary (op function : String) (operand : Formula) : Formula :=
  .operation op function [operand]

def binary (op function : String) (left right : Formula) : Formula :=
  .operation op function [left, right]

/-- The block that a conditional falls back to, if it has one more block than conditions. -/
def elseBlock? (conditions blocks : List Formula) : Option Formula :=
  if conditions.length < blocks.length then blocks.getLast? else none

theorem elseBlock?_eq_none_iff {conditions blocks : List Formula} :
    elseBlock? conditions blocks = none ↔ blocks.length ≤ conditions.length := by
  rw [elseBlock?]
  split
  · rename_i more
    have present : blocks ≠ [] := by
      rintro rfl
      simp at more
    simp [present, more]
  · simp_all

theorem checkedAssignment_shape {target value f : Formula}
    (h : checkedAssignment target value = .ok f) : f = .assignment target value ∧ f.Shape := by
  cases target <;> simp [checkedAssignment] at h
  subst h
  exact ⟨rfl, rfl⟩

theorem checkedBlock_shape {statements : List (Formula × Bool)} {f : Formula}
    (h : checkedBlock statements = .ok f) : f = .block statements ∧ f.Shape := by
  unfold checkedBlock at h
  split at h
  · contradiction
  · rename_i nonempty
    cases h
    exact ⟨rfl, by simpa [Shape] using nonempty⟩

theorem checkedOperation_shape {op function : String} {operands : List Formula} {f : Formula}
    (h : checkedOperation op function operands = .ok f) :
    f = .operation op function operands ∧ f.Shape := by
  unfold checkedOperation at h
  split at h
  · rename_i count
    cases h
    exact ⟨rfl, count⟩
  · contradiction

theorem checkedConditional_shape {conditions blocks : List Formula} {f : Formula}
    (h : checkedConditional conditions blocks = .ok f) :
    f = .conditional conditions blocks ∧ f.Shape := by
  unfold checkedConditional at h
  split at h
  · contradiction
  · rename_i nonempty
    split at h
    · contradiction
    · split at h
      · rename_i count
        cases h
        exact ⟨rfl, by simpa using nonempty, count⟩
      · contradiction

theorem checkedAssignment_eq_ok {target : Formula} (h : target.kind = .symbol) (value : Formula) :
    checkedAssignment target value = .ok (.assignment target value) := by
  cases target with
  | symbol name => rfl
  | _ => cases h

theorem checkedBlock_eq_ok {statements : List (Formula × Bool)} (h : (block statements).Shape) :
    checkedBlock statements = .ok (.block statements) :=
  if_neg (by simpa [Shape] using h)

theorem checkedOperation_eq_ok {op function : String} {operands : List Formula}
    (h : (operation op function operands).Shape) :
    checkedOperation op function operands = .ok (.operation op function operands) :=
  if_pos h

theorem checkedConditional_eq_ok {conditions blocks : List Formula}
    (h : (conditional conditions blocks).Shape) :
    checkedConditional conditions blocks = .ok (.conditional conditions blocks) := by
  have present : blocks ≠ [] := by
    rintro rfl
    have count := h.2
    have some_condition := List.length_pos_iff.2 h.1
    rw [List.length_nil] at count
    omega
  rw [checkedConditional, if_neg (by simpa using h.1), if_neg (by simpa using present), if_pos h.2]

end Formula

end FormulaTree
