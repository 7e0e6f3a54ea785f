set_option autoImplicit false

namespace FormulaTree.Text

/-- Whether `code` lies in one of the ranges, which ascend: the search ends at the first range
that starts beyond it. -/
def inRanges (code : Nat) : List (Nat × Nat) → Bool
  | [] => false
  | (low, high) :: rest =>
    if code < low then false else if code ≤ high then true else inRanges code rest

end FormulaTree.Text
