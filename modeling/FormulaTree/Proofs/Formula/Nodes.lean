import FormulaTree.Proofs.Formula.Names

set_option autoImplicit false

namespace FormulaTree.Formula

def nodes (formula : Formula) : List Formula :=
  formula.visits.map Visit.formula

theorem map_formula_visitsFrom (formula : Formula) (address address' : List Position)
    (parent parent' : Option Formula) :
    (formula.visitsFrom address parent).map Visit.formula
      = (formula.visitsFrom address' parent').map Visit.formula := by
  rw [visitsFrom_eq, visitsFrom_eq address', List.map_cons, List.map_cons, List.map_flatMap,
    List.map_flatMap]
  congr 1
  exact List.flatMap_congr fun child mem => map_formula_visitsFrom child.2 _ _ _ _
termination_by formula
decreasing_by exact sizeOf_child_lt mem

theorem nodes_eq (formula : Formula) :
    formula.nodes = formula :: formula.children.flatMap fun child => child.2.nodes := by
  rw [nodes, visits, visitsFrom_eq, List.map_cons, List.map_flatMap]
  congr 1
  exact List.flatMap_congr fun child _ => map_formula_visitsFrom child.2 _ _ _ _

theorem mem_nodes_self (formula : Formula) : formula ∈ formula.nodes := by
  rw [nodes_eq]
  exact List.mem_cons_self

theorem nodes_subset_of_mem_children {formula : Formula} {child : Position × Formula}
    (h : child ∈ formula.children) : child.2.nodes ⊆ formula.nodes := by
  intro node mem
  rw [nodes_eq]
  exact List.mem_cons_of_mem _ (List.mem_flatMap.2 ⟨child, h, mem⟩)

section kinds

variable (name function op : String) (value : Value) (formula other : Formula)
variable (parts : List Formula) (statements : List (Formula × Bool))

theorem nodes_eq_flatMap_parts :
    formula.nodes = formula :: (formula.children.map Prod.snd).flatMap nodes := by
  rw [nodes_eq, List.flatMap_map]

@[simp] theorem nodes_constant : (constant value).nodes = [constant value] :=
  nodes_eq _

@[simp] theorem nodes_symbol : (symbol name).nodes = [symbol name] :=
  nodes_eq _

@[simp] theorem nodes_assignment :
    (assignment formula other).nodes
      = assignment formula other :: (formula.nodes ++ other.nodes) := by
  rw [nodes_eq_flatMap_parts]
  simp [children]

@[simp] theorem nodes_block :
    (block statements).nodes
      = block statements :: statements.flatMap fun entry => entry.1.nodes := by
  rw [nodes_eq_flatMap_parts, children, map_snd_numbered, List.flatMap_map]

@[simp] theorem nodes_operation :
    (operation op function parts).nodes = operation op function parts :: parts.flatMap nodes := by
  rw [nodes_eq_flatMap_parts, children, map_snd_numbered]

@[simp] theorem nodes_parenthesis :
    (parenthesis formula).nodes = parenthesis formula :: formula.nodes := by
  rw [nodes_eq_flatMap_parts]
  simp [children]

@[simp] theorem nodes_call :
    (call function parts).nodes = call function parts :: parts.flatMap nodes := by
  rw [nodes_eq_flatMap_parts, children, map_snd_numbered]

end kinds

def function? : Formula → Option String
  | .operation _ function _ => some function
  | .call function _ => some function
  | _ => none

def functions (formula : Formula) : List String :=
  formula.nodes.filterMap function?

theorem mem_functions_self {formula : Formula} {function : String}
    (h : formula.function? = some function) : function ∈ formula.functions :=
  List.mem_filterMap.2 ⟨formula, mem_nodes_self formula, h⟩

theorem functions_subset {part formula : Formula} (h : part.nodes ⊆ formula.nodes) :
    part.functions ⊆ formula.functions :=
  List.filterMap_subset function? h

theorem functions_eq (formula : Formula) :
    formula.functions
      = formula.function?.toList ++ formula.children.flatMap fun child => child.2.functions := by
  rw [functions, nodes_eq, List.filterMap_cons, List.filterMap_flatMap]
  cases formula.function? <;> rfl

end FormulaTree.Formula
