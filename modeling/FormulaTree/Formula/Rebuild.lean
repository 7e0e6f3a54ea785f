import FormulaTree.Formula.Children

set_option autoImplicit false

namespace FormulaTree.Formula

variable {m : Type → Type} [Monad m]

def replaceNumbered (replace : Position → Formula → m Formula) (position : Nat → Position)
    (start : Nat) : List Formula → m (List Formula)
  | [] => pure []
  | part :: rest => do
    let part ← replace (position start) part
    let rest ← replaceNumbered replace position (start + 1) rest
    pure (part :: rest)

def replaceStatements (replace : Position → Formula → m Formula) (start : Nat) :
    List (Formula × Bool) → m (List (Formula × Bool))
  | [] => pure []
  | (statement, visible) :: rest => do
    let statement ← replace (.statement start) statement
    let rest ← replaceStatements replace (start + 1) rest
    pure ((statement, visible) :: rest)

def replaceBranches (replace : Position → Formula → m Formula) (index : Nat) :
    List Formula → List Formula → m (List Formula × List Formula)
  | test :: tests, body :: bodies => do
    let test ← replace (.condition index) test
    let body ← replace (.block index) body
    let (tests, bodies) ← replaceBranches replace (index + 1) tests bodies
    pure (test :: tests, body :: bodies)
  | [], [body] => do
    let body ← replace .elseBlock body
    pure ([], [body])
  | _, _ => pure ([], [])

variable [MonadExcept Error m]

def replaceParts (replace : Position → Formula → m Formula) : Formula → m Formula
  | .constant value => pure (.constant value)
  | .symbol name => pure (.symbol name)
  | .assignment target value => do
    let target ← replace .target target
    let value ← replace .value value
    MonadExcept.ofExcept (checkedAssignment target value)
  | .block statements => do
    let statements ← replaceStatements replace 0 statements
    MonadExcept.ofExcept (checkedBlock statements)
  | .operation op function operands => do
    let operands ← replaceNumbered replace .argument 0 operands
    MonadExcept.ofExcept (checkedOperation op function operands)
  | .parenthesis content => do
    let content ← replace .content content
    pure (.parenthesis content)
  | .call function arguments => do
    let arguments ← replaceNumbered replace .argument 0 arguments
    pure (.call function arguments)
  | .conditional conditions blocks => do
    let (conditions, blocks) ← replaceBranches replace 0 conditions blocks
    MonadExcept.ofExcept (checkedConditional conditions blocks)

/-- The formula with each part replaced by `replace position part formula`. -/
def tryRebuild (replace : Position → Formula → Formula → m Formula) (formula : Formula) :
    m Formula :=
  formula.replaceParts fun position part => replace position part formula

/-- As `tryRebuild`, but a part may be left without a replacement, which fails. -/
def rebuild (replace : Position → Formula → Formula → m (Option Formula)) (formula : Formula) :
    m Formula :=
  formula.tryRebuild fun position part parent => do
    match ← replace position part parent with
    | some replacement => pure replacement
    | none => throw (.missingReplacement parent.kind position)

def nextReplacement (parent : Kind) (position : Position) :
    StateT (List Formula) (Except Error) Formula := do
  match ← get with
  | [] => throw (.missingReplacement parent position)
  | part :: rest =>
    set rest
    pure part

def rebuildFrom (formula : Formula) (replacements : List Formula) : Except Error Formula :=
  (formula.tryRebuild fun position _ parent => nextReplacement parent.kind position).run'
    replacements

end FormulaTree.Formula
