import FormulaTree.Evaluation.Library
import FormulaTree.Evaluation.Scope
import FormulaTree.Formula.Basic
import FormulaTree.Value.Truth

/-!
# Compiling formulas

Compiling resolves the names of functions and constants once and gives a run that can be repeated on
any scope. A run threads the scope through the parts of the formula; when it fails, the scope is as
the parts before the failure left it. An outcome may be absent, which is no failure: a conditional
of which no condition holds and which has no block for that case yields nothing.
-/

set_option autoImplicit false

namespace FormulaTree

/-- A computation on a scope that may fail; the scope outlives a failure. -/
abbrev Run := ExceptT Error (StateM Scope)

abbrev Compiled := Args → Context → Run (Option Value)

namespace Compiled

def orNull (outcome : Option Value) : Value :=
  outcome.getD .null

def constant (value : Value) : Compiled :=
  fun _ _ => pure (some value)

def argument (name : String) : Compiled :=
  fun args _ =>
    match args.get? name with
    | some value => pure (some value)
    | none => throw (.undefinedSymbol name)

def readVariable (name : String) (fallback : Option Value) : Compiled :=
  fun _ _ => do
    let scope ← get
    match (scope.get? name).or fallback with
    | some value => pure (some value)
    | none => throw (.undefinedSymbol name)

def assign (name : String) (value : Compiled) : Compiled :=
  fun args context => do
    let result := orNull (← value args context)
    modify (·.set name result)
    pure (some result)

def values (args : Args) (context : Context) : List Compiled → Run (List Value)
  | [] => pure []
  | operand :: rest => do
    let first := orNull (← operand args context)
    let others ← values args context rest
    pure (first :: others)

def apply (f : Builtin) (operands : List Compiled) : Compiled :=
  fun args context => do
    let arguments ← values args context operands
    some <$> (f.call arguments : Except Error Value)

def results (args : Args) (context : Context) : List (Compiled × Bool) → Run (List Value)
  | [] => pure []
  | (statement, visible) :: rest => do
    let outcome ← statement args context
    let others ← results args context rest
    match outcome with
    | some value => pure (if visible then value :: others else others)
    | none => pure others

def sequence (statements : List (Compiled × Bool)) : Compiled :=
  fun args context => do
    let collected ← results args context statements
    pure (some (.resultSet collected))

/-- Runs the conditions in order until one is true, then the block that belongs to it and nothing
else. A block without a condition is for the case that none is true. -/
def choose : List Compiled → List Compiled → Compiled
  | test :: tests, body :: bodies => fun args context => do
    let outcome ← test args context
    if ← (Value.outcomeTruth outcome : Except Error Bool) then body args context
    else choose tests bodies args context
  | [], [body] => body
  | _, _ => fun _ _ => pure none

end Compiled

namespace Formula

def targetName : Formula → String
  | .symbol name => name
  | _ => ""

mutual

/-- Compiles a formula for a library and the names of its parameters. A symbol that names a
parameter is read from the arguments, any other from the scope. -/
def compile (library : Library) (params : List String) : Formula → Except Error Compiled
  | .constant value => .ok (.constant value)
  | .symbol name =>
    if name ∈ params then .ok (.argument name)
    else .ok (.readVariable name (library.constant? name))
  | .assignment target value => do
    let value ← compile library params value
    .ok (.assign target.targetName value)
  | .block statements => do
    let statements ← compileStatements library params statements
    .ok (.sequence statements)
  | .operation _ function operands => do
    let f ← library.resolve function
    let operands ← compileAll library params operands
    .ok (.apply f operands)
  | .parenthesis content => compile library params content
  | .call function arguments => do
    let f ← library.resolve function
    let arguments ← compileAll library params arguments
    .ok (.apply f arguments)
  | .conditional conditions blocks => do
    let conditions ← compileAll library params conditions
    let blocks ← compileAll library params blocks
    .ok (.choose conditions blocks)

def compileAll (library : Library) (params : List String) :
    List Formula → Except Error (List Compiled)
  | [] => .ok []
  | formula :: rest => do
    let first ← compile library params formula
    let others ← compileAll library params rest
    .ok (first :: others)

def compileStatements (library : Library) (params : List String) :
    List (Formula × Bool) → Except Error (List (Compiled × Bool))
  | [] => .ok []
  | (statement, visible) :: rest => do
    let first ← compile library params statement
    let others ← compileStatements library params rest
    .ok ((first, visible) :: others)

end

end Formula

structure Expression where
  run : Compiled

namespace Expression

/-- The outcome of a run and the scope after it, which a failing run leaves too. -/
def evaluateWith (expression : Expression) (scope : Scope) (args : Args) (context : Context) :
    Except Error (Option Value) × Scope :=
  (expression.run args context).run.run scope

def evaluate (expression : Expression) (scope : Scope) : Except Error (Option Value) × Scope :=
  expression.evaluateWith scope {} {}

def describe (_ : Expression) : String :=
  "Expression(<compiled>)"

end Expression

end FormulaTree
