import FormulaTree.Formula.Equality
import FormulaTree.Formula.Rebuild
import FormulaTree.Formula.Walk

/-!
# Transforming a formula

`Formula.transform` changes a whole tree from the leaves up. First the parts of a node are changed,
then the node is rebuilt from them, then it is changed itself. As in a rebuilding, the changing
function runs in any monad that can fail with an `Error`.
-/

set_option autoImplicit false

namespace FormulaTree.Formula

variable {m : Type → Type} [Monad m] [MonadExcept Error m]

def allReused (reuse : List Position → Bool) (address : List Position) :
    List (Position × Formula) → List Formula → Bool
  | child :: children, part :: parts =>
    reuse (child.1 :: address) && part = child.2 && allReused reuse address children parts
  | _, _ => true

/-- Changes the tree under the node at `address`. The parts are changed before the node, from left
to right; a node whose parts all came back as they were is reused as it stands, any other is rebuilt;
then the node itself is changed. The visit that `change` is given holds the node with its new parts,
and its parent as it was before. -/
def transformAt (reuse : List Position → Bool) (change : Visit → m Formula)
    (address : List Position) (parent : Option Formula) (formula : Formula) : m Formula := do
  let parts ← formula.children.attach.mapM fun child =>
    transformAt reuse change (child.1.1 :: address) (some formula) child.1.2
  let current ←
    if allReused reuse address formula.children parts then pure formula
    else MonadExcept.ofExcept (formula.rebuildFrom parts)
  change ⟨current, address, parent⟩
termination_by formula
decreasing_by exact sizeOf_child_lt child.2

theorem transformAt_eq [LawfulMonad m] (reuse : List Position → Bool)
    (change : Visit → m Formula) (address : List Position) (parent : Option Formula)
    (formula : Formula) :
    formula.transformAt reuse change address parent = (do
      let parts ← formula.children.mapM fun child =>
        child.2.transformAt reuse change (child.1 :: address) (some formula)
      let current ←
        if allReused reuse address formula.children parts then pure formula
        else MonadExcept.ofExcept (formula.rebuildFrom parts)
      change ⟨current, address, parent⟩) := by
  rw [transformAt]
  congr 1
  exact (List.mapM_subtype (g := fun child : Position × Formula =>
    child.2.transformAt reuse change (child.1 :: address) (some formula))
    fun _ _ => rfl).trans (by rw [List.unattach_attach])

def transform (change : Visit → m Formula) (formula : Formula) : m Formula :=
  formula.transformAt (fun _ => true) change [] none

end FormulaTree.Formula
