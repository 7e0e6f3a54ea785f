import FormulaTree.Evaluation.Compile
import FormulaTree.Proofs.Formula.Calls

/-!
# The names that a formula reads and sets

A symbol is read unless it is the target of an assignment. `Formula.reads` and `Formula.targets`
collect what is noted at the nodes of a formula, each node after its parts, and are the same for a
part inside a formula as for the part alone.
-/

set_option autoImplicit false

namespace FormulaTree

def Visit.read? (visit : Visit) : Option String :=
  match visit.formula with
  | .symbol name => if visit.position = some .target then none else some name
  | _ => none

def Visit.assigned? (visit : Visit) : Option String :=
  match visit.formula with
  | .assignment target _ => some target.targetName
  | _ => none

namespace Formula

def reads (formula : Formula) : List String :=
  formula.postorder.filterMap Visit.read?

def targets (formula : Formula) : List String :=
  formula.postorder.filterMap Visit.assigned?

section notes

variable {β : Type} {note : Visit → Option β}

/-- A note goes by the node and its position alone. -/
def Local (note : Visit → Option β) : Prop :=
  ∀ (formula : Formula) (position : Position) (address address' : List Position)
    (parent parent' : Option Formula),
    note ⟨formula, position :: address, parent⟩ = note ⟨formula, position :: address', parent'⟩

theorem filterMap_postorderFrom (own : Local note) (formula : Formula)
    {address address' : List Position} {parent parent' : Option Formula}
    (root : note ⟨formula, address, parent⟩ = note ⟨formula, address', parent'⟩) :
    (formula.postorderFrom address parent).filterMap note
      = (formula.postorderFrom address' parent').filterMap note := by
  rw [postorderFrom_eq, postorderFrom_eq address', List.filterMap_append, List.filterMap_append,
    List.filterMap_flatMap, List.filterMap_flatMap]
  congr 1
  · refine List.flatMap_congr fun child mem => ?_
    exact filterMap_postorderFrom own child.2 (own child.2 child.1 _ _ _ _)
  · rw [List.filterMap_cons, List.filterMap_cons, root]
termination_by formula
decreasing_by exact sizeOf_child_lt mem

/-- The notes of a formula are those of its parts and then its own, if the parts make the same notes
when they stand alone. -/
theorem filterMap_postorder (own : Local note) {formula : Formula}
    (alone : ∀ child ∈ formula.children,
      note ⟨child.2, [child.1], some formula⟩ = note ⟨child.2, [], none⟩) :
    formula.postorder.filterMap note
      = (formula.children.flatMap fun child => child.2.postorder.filterMap note)
        ++ (note ⟨formula, [], none⟩).toList := by
  rw [postorder, postorderFrom_eq, List.filterMap_append, List.filterMap_flatMap]
  congr 1
  exact List.flatMap_congr fun child mem => filterMap_postorderFrom own child.2 (alone child mem)

theorem flatMap_numbered (f : Formula → List β) (position : Nat → Position) (start : Nat)
    (parts : List Formula) :
    ((numbered position start parts).flatMap fun child => f child.2) = parts.flatMap f := by
  rw [← List.flatMap_map Prod.snd f, map_snd_numbered]

end notes

theorem targets_eq (formula : Formula) :
    formula.targets = (formula.children.flatMap fun child => child.2.targets)
      ++ (Visit.assigned? ⟨formula, [], none⟩).toList :=
  filterMap_postorder (fun _ _ _ _ _ _ => rfl) fun _ _ => rfl

@[simp] theorem targets_constant (value : Value) : (constant value).targets = [] := by
  rw [targets_eq]
  rfl

@[simp] theorem targets_symbol (name : String) : (symbol name).targets = [] := by
  rw [targets_eq]
  rfl

@[simp] theorem targets_assignment (target value : Formula) :
    (assignment target value).targets = target.targets ++ value.targets ++ [target.targetName] := by
  rw [targets_eq]
  simp [children, Visit.assigned?]

@[simp] theorem targets_block (statements : List (Formula × Bool)) :
    (block statements).targets = statements.flatMap fun entry => entry.1.targets := by
  rw [targets_eq, children, flatMap_numbered, List.flatMap_map]
  exact List.append_nil _

@[simp] theorem targets_operation (op function : String) (operands : List Formula) :
    (operation op function operands).targets = operands.flatMap targets := by
  rw [targets_eq, children, flatMap_numbered]
  exact List.append_nil _

@[simp] theorem targets_parenthesis (content : Formula) :
    (parenthesis content).targets = content.targets := by
  rw [targets_eq]
  simp [children, Visit.assigned?]

@[simp] theorem targets_call (function : String) (arguments : List Formula) :
    (call function arguments).targets = arguments.flatMap targets := by
  rw [targets_eq, children, flatMap_numbered]
  exact List.append_nil _

@[simp] theorem targets_conditional (conditions blocks : List Formula) :
    (conditional conditions blocks).targets
      = (branches 0 conditions blocks).flatMap fun child => child.2.targets := by
  rw [targets_eq]
  exact List.append_nil _

theorem read?_alone {formula : Formula} {position : Position} {parent : Option Formula}
    (h : position ≠ .target) :
    Visit.read? ⟨formula, [position], parent⟩ = Visit.read? ⟨formula, [], none⟩ := by
  cases formula <;> simp [Visit.read?, Visit.position, h]

theorem position_of_mem_numbered {position : Nat → Position} {start : Nat} {parts : List Formula}
    {child : Position × Formula} (h : child ∈ numbered position start parts) :
    ∃ i, child.1 = position i := by
  have mem := List.mem_map_of_mem (f := Prod.fst) h
  rw [map_fst_numbered] at mem
  obtain ⟨i, -, same⟩ := List.mem_map.1 mem
  exact ⟨i, same.symm⟩

theorem ne_target_of_mem_branches {index : Nat} {conditions blocks : List Formula}
    {child : Position × Formula} (h : child ∈ branches index conditions blocks) :
    child.1 ≠ .target := by
  fun_induction branches index conditions blocks with
  | case1 index test tests body bodies ih =>
    rcases List.mem_cons.1 h with rfl | h
    · cases index <;> simp [Position.condition]
    · rcases List.mem_cons.1 h with rfl | h
      · cases index <;> simp [Position.block]
      · exact ih h
  | case2 => simp_all
  | case3 => simp at h

theorem ne_target_of_mem_children {formula : Formula} {child : Position × Formula}
    (other : formula.kind ≠ .assignment) (h : child ∈ formula.children) : child.1 ≠ .target := by
  cases formula with
  | constant | symbol => simp [children] at h
  | assignment target value => exact absurd rfl other
  | block statements =>
    obtain ⟨i, same⟩ := position_of_mem_numbered h
    simp [same]
  | operation op function parts | call function parts =>
    obtain ⟨i, same⟩ := position_of_mem_numbered h
    simp [same]
  | parenthesis content =>
    obtain rfl : child = (.content, content) := by simpa [children] using h
    simp
  | conditional conditions blocks => exact ne_target_of_mem_branches h

/-- A formula that is no assignment reads what its parts read and what it reads itself. -/
theorem reads_eq {formula : Formula} (other : formula.kind ≠ .assignment) :
    formula.reads = (formula.children.flatMap fun child => child.2.reads)
      ++ (Visit.read? ⟨formula, [], none⟩).toList :=
  filterMap_postorder (fun _ _ _ _ _ _ => rfl) fun _ mem =>
    read?_alone (ne_target_of_mem_children other mem)

@[simp] theorem reads_constant (value : Value) : (constant value).reads = [] := by
  rw [reads_eq (by simp [kind])]
  rfl

@[simp] theorem reads_symbol (name : String) : (symbol name).reads = [name] := by
  rw [reads_eq (by simp [kind])]
  rfl

@[simp] theorem reads_assignment (target value : Formula) :
    (assignment target value).reads
      = (if target.kind = .symbol then [] else target.reads) ++ value.reads := by
  rw [reads, postorder, postorderFrom_eq, List.filterMap_append, List.filterMap_flatMap]
  simp only [children, List.flatMap_cons, List.flatMap_nil, List.append_nil]
  refine (List.append_nil _).trans (congrArg₂ (· ++ ·) ?_ ?_)
  · cases target with
    | symbol name =>
      rw [postorderFrom_eq]
      rfl
    | _ => exact filterMap_postorderFrom (fun _ _ _ _ _ _ => rfl) _ rfl
  · exact filterMap_postorderFrom (fun _ _ _ _ _ _ => rfl) value (read?_alone (by simp))

@[simp] theorem reads_block (statements : List (Formula × Bool)) :
    (block statements).reads = statements.flatMap fun entry => entry.1.reads := by
  rw [reads_eq (by simp [kind]), children, flatMap_numbered, List.flatMap_map]
  exact List.append_nil _

@[simp] theorem reads_operation (op function : String) (operands : List Formula) :
    (operation op function operands).reads = operands.flatMap reads := by
  rw [reads_eq (by simp [kind]), children, flatMap_numbered]
  exact List.append_nil _

@[simp] theorem reads_parenthesis (content : Formula) :
    (parenthesis content).reads = content.reads := by
  rw [reads_eq (by simp [kind])]
  simp [children, Visit.read?]

@[simp] theorem reads_call (function : String) (arguments : List Formula) :
    (call function arguments).reads = arguments.flatMap reads := by
  rw [reads_eq (by simp [kind]), children, flatMap_numbered]
  exact List.append_nil _

@[simp] theorem reads_conditional (conditions blocks : List Formula) :
    (conditional conditions blocks).reads
      = (branches 0 conditions blocks).flatMap fun child => child.2.reads := by
  rw [reads_eq (by simp [kind])]
  exact List.append_nil _

end Formula

end FormulaTree
