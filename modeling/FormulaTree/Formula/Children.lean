import FormulaTree.Formula.Basic

set_option autoImplicit false

namespace FormulaTree.Formula

def numbered (position : Nat → Position) (start : Nat) : List Formula → List (Position × Formula)
  | [] => []
  | part :: rest => (position start, part) :: numbered position (start + 1) rest

/-- The parts of a conditional: each condition before its block, then a block without one. -/
def branches (index : Nat) : List Formula → List Formula → List (Position × Formula)
  | test :: tests, body :: bodies =>
    (.condition index, test) :: (.block index, body) :: branches (index + 1) tests bodies
  | [], [body] => [(.elseBlock, body)]
  | _, _ => []

def children : Formula → List (Position × Formula)
  | .constant _ => []
  | .symbol _ => []
  | .assignment target value => [(.target, target), (.value, value)]
  | .block statements => numbered .statement 0 (statements.map Prod.fst)
  | .operation _ _ operands => numbered .argument 0 operands
  | .parenthesis content => [(.content, content)]
  | .call _ arguments => numbered .argument 0 arguments
  | .conditional conditions blocks => branches 0 conditions blocks

theorem mem_of_mem_numbered {position : Nat → Position} {start : Nat} {parts : List Formula}
    {child : Position × Formula} (h : child ∈ numbered position start parts) :
    child.2 ∈ parts := by
  induction parts generalizing start with
  | nil => simp [numbered] at h
  | cons part rest ih =>
    rcases List.mem_cons.1 h with rfl | h
    · simp
    · exact List.mem_cons_of_mem _ (ih h)

theorem mem_of_mem_branches {index : Nat} {conditions blocks : List Formula}
    {child : Position × Formula} (h : child ∈ branches index conditions blocks) :
    child.2 ∈ conditions ∨ child.2 ∈ blocks := by
  fun_induction branches index conditions blocks with
  | case1 index test tests body bodies ih =>
    rcases List.mem_cons.1 h with rfl | h
    · simp
    · rcases List.mem_cons.1 h with rfl | h
      · simp
      · rcases ih h with h | h <;> simp [h]
  | case2 => simp_all
  | case3 => simp at h

theorem sizeOf_child_lt {formula : Formula} {child : Position × Formula}
    (h : child ∈ formula.children) : sizeOf child.2 < sizeOf formula := by
  cases formula with
  | constant | symbol => simp [children] at h
  | assignment target value =>
    simp only [children, List.mem_cons, List.not_mem_nil, or_false] at h
    rcases h with rfl | rfl
    · simp only [assignment.sizeOf_spec]
      omega
    · simp only [assignment.sizeOf_spec]
      omega
  | block statements =>
    obtain ⟨entry, mem, same⟩ := List.mem_map.1 (mem_of_mem_numbered h)
    have small := List.sizeOf_lt_of_mem mem
    obtain ⟨f, visible⟩ := entry
    simp only at same
    simp only [Prod.mk.sizeOf_spec] at small
    simp only [block.sizeOf_spec, ← same]
    omega
  | operation op function operands =>
    have := List.sizeOf_lt_of_mem (mem_of_mem_numbered h)
    simp
    omega
  | parenthesis content =>
    simp only [children, List.mem_cons, List.not_mem_nil, or_false] at h
    subst h
    simp
  | call function arguments =>
    have := List.sizeOf_lt_of_mem (mem_of_mem_numbered h)
    simp
    omega
  | conditional conditions blocks =>
    simp only [conditional.sizeOf_spec]
    rcases mem_of_mem_branches h with mem | mem
    · have := List.sizeOf_lt_of_mem mem
      omega
    · have := List.sizeOf_lt_of_mem mem
      omega

/-- Induction over formulas, where every kind may assume the property of all of its parts. -/
@[elab_as_elim, induction_eliminator]
theorem parts_induction {motive : Formula → Prop}
    (constant : ∀ value, motive (.constant value))
    (symbol : ∀ name, motive (.symbol name))
    (assignment : ∀ target value, motive target → motive value →
      motive (.assignment target value))
    (block : ∀ statements, (∀ entry ∈ statements, motive entry.1) → motive (.block statements))
    (operation : ∀ op function operands, (∀ operand ∈ operands, motive operand) →
      motive (.operation op function operands))
    (parenthesis : ∀ content, motive content → motive (.parenthesis content))
    (call : ∀ function arguments, (∀ argument ∈ arguments, motive argument) →
      motive (.call function arguments))
    (conditional : ∀ conditions blocks, (∀ condition ∈ conditions, motive condition) →
      (∀ block ∈ blocks, motive block) → motive (.conditional conditions blocks))
    (formula : Formula) : motive formula :=
  @Formula.rec motive (fun statements => ∀ entry ∈ statements, motive entry.1)
    (fun formulas => ∀ formula ∈ formulas, motive formula) (fun entry => motive entry.1)
    constant symbol assignment block operation parenthesis call conditional
    (fun _ mem => nomatch mem) (fun _ _ first rest => List.forall_mem_cons.2 ⟨first, rest⟩)
    (fun _ mem => nomatch mem) (fun _ _ first rest => List.forall_mem_cons.2 ⟨first, rest⟩)
    (fun _ _ first => first) formula

/-- A formula keeps the rules of its kind, and so do all of its parts. -/
inductive WellFormed : Formula → Prop where
  | intro (formula : Formula) (shape : formula.Shape)
      (parts : ∀ child ∈ formula.children, WellFormed child.2) : WellFormed formula

end FormulaTree.Formula
