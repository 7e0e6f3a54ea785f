import FormulaTree.Formula.Children

set_option autoImplicit false

namespace FormulaTree

/-- A node as a walk meets it. Its address is the positions on the way to it, the innermost first;
the node that the walk starts from has the empty address and no parent. -/
structure Visit where
  formula : Formula
  address : List Formula.Position
  parent : Option Formula

def Visit.position (visit : Visit) : Option Formula.Position :=
  visit.address.head?

namespace Formula

def visitsFrom (address : List Position) (parent : Option Formula) (formula : Formula) :
    List Visit :=
  ⟨formula, address, parent⟩ ::
    formula.children.attach.flatMap fun child =>
      visitsFrom (child.1.1 :: address) (some formula) child.1.2
termination_by formula
decreasing_by exact sizeOf_child_lt child.2

def visits (formula : Formula) : List Visit :=
  formula.visitsFrom [] none

def partVisits (formula : Formula) : List Visit :=
  formula.children.map fun child => ⟨child.2, [child.1], some formula⟩

def filter (keep : Visit → Bool) (formula : Formula) : List Formula :=
  (formula.visits.filter keep).map Visit.formula

theorem visitsFrom_eq (address : List Position) (parent : Option Formula) (formula : Formula) :
    formula.visitsFrom address parent = ⟨formula, address, parent⟩ ::
      formula.children.flatMap fun child =>
        child.2.visitsFrom (child.1 :: address) (some formula) := by
  rw [visitsFrom]
  congr 1
  exact (List.flatMap_subtype (g := fun child : Position × Formula =>
    child.2.visitsFrom (child.1 :: address) (some formula)) fun _ _ => rfl).trans
      (by rw [List.unattach_attach])

end Formula

end FormulaTree
