import FormulaTree.Evaluation.Library
import FormulaTree.Value.Display
import FormulaTree.Value.Equality
import FormulaTree.Value.Truth

set_option autoImplicit false

namespace FormulaTree

namespace Prelude

def worded {α : Type} (result : Except Error α) : Except String α :=
  result.mapError Error.message

def number (value : Value) : Except String Float :=
  worded value.toNumber

def truth (value : Value) : Except String Bool :=
  worded value.truth

def noSuchArity : Except String Value :=
  .error "unexpected number of arguments"

def numeric1 (name : String) (f : Float → Float) : Builtin where
  name := name
  arity := 1
  apply
    | [a] => do
      let x ← number a
      return .number (f x)
    | _ => noSuchArity

def numeric2 (name : String) (f : Float → Float → Float) : Builtin where
  name := name
  arity := 2
  apply
    | [a, b] => do
      let x ← number a
      let y ← number b
      return .number (f x y)
    | _ => noSuchArity

def comparison (name : String) (f : Float → Float → Bool) : Builtin where
  name := name
  arity := 2
  apply
    | [a, b] => do
      let x ← number a
      let y ← number b
      return .bool (f x y)
    | _ => noSuchArity

/-- The remainder with the sign of the divisor. -/
def modulo (a b : Float) : Float :=
  a - b * (a / b).floor

/-- Numbers and truth values compare as numbers, all else as values. -/
def looseEqual (a b : Value) : Bool :=
  match a.toNumber, b.toNumber with
  | .ok x, .ok y => x == y
  | _, _ => a.equal b

def equality (name : String) (expected : Bool) : Builtin where
  name := name
  arity := 2
  apply
    | [a, b] => .ok (.bool (looseEqual a b == expected))
    | _ => noSuchArity

def negation : Builtin where
  name := "not"
  arity := 1
  apply
    | [a] => do
      let p ← truth a
      return .bool (!p)
    | _ => noSuchArity

def conjunction : Builtin where
  name := "and"
  arity := 2
  apply
    | [a, b] => do
      if ← truth a then
        let q ← truth b
        return .bool q
      else return .bool false
    | _ => noSuchArity

def disjunction : Builtin where
  name := "or"
  arity := 2
  apply
    | [a, b] => do
      if ← truth a then return .bool true
      else
        let q ← truth b
        return .bool q
    | _ => noSuchArity

def parseDecimal (text : String) : Except String Value :=
  match Decimal.ofLiteral? text with
  | some d => .ok (.decimal d)
  | none => .error (Error.invalidArgument (.literal text)).message

def toDecimal : Value → Except String Value
  | .string text => parseDecimal text
  | .number x => parseDecimal (Value.writePart x)
  | .decimal d => .ok (.decimal d)
  | other => .error ("cannot convert " ++ other.kind.name ++ " to BigNumber")

def decimalFunction : Builtin where
  name := "bignumber"
  arity := 1
  apply
    | [a] => toDecimal a
    | _ => noSuchArity

def complexFunction : Builtin where
  name := "complex"
  arity := 2
  apply
    | [a, b] => do
      let re ← number a
      let im ← number b
      return .complex re im
    | _ => noSuchArity

def unitFunction : Builtin where
  name := "unit"
  arity := -1
  apply
    | [.string name] => .ok (.unit none name)
    | [magnitude, .string name] => do
      let x ← number magnitude
      return .unit (some x) name
    | _ => .error "expected unit(name) or unit(value, name)"

def matrixFunction : Builtin where
  name := "matrix"
  arity := -1
  apply items := .ok (.matrix items)

def functions : List Builtin :=
  [ numeric2 "add" (· + ·)
  , numeric2 "subtract" (· - ·)
  , numeric2 "multiply" (· * ·)
  , numeric2 "divide" (· / ·)
  , numeric2 "mod" modulo
  , numeric2 "pow" Float.pow
  , numeric1 "unaryMinus" (-·)
  , numeric1 "unaryPlus" id
  , equality "equal" true
  , equality "unequal" false
  , comparison "smaller" fun x y => x < y
  , comparison "larger" fun x y => x > y
  , comparison "smallerEq" fun x y => x ≤ y
  , comparison "largerEq" fun x y => x ≥ y
  , negation
  , conjunction
  , disjunction
  , decimalFunction
  , complexFunction
  , unitFunction
  , matrixFunction ]

def constants : List (String × Value) :=
  [ ("pi", .number 3.141592653589793)
  , ("e", .number 2.718281828459045)
  , ("Infinity", .number (1.0 / 0.0))
  , ("NaN", .number (0.0 / 0.0))
  , ("null", .null) ]

end Prelude

/-- Adds the prelude, in place of anything that has the same names. -/
def Library.loadPrelude (library : Library) : Library :=
  let library := Prelude.constants.foldl (fun l pair => l.defineConstant pair.1 pair.2) library
  Prelude.functions.foldl Library.define library

def Library.prelude : Library :=
  Library.loadPrelude {}

end FormulaTree
