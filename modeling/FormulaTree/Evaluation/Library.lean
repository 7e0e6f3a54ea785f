import FormulaTree.Bindings
import FormulaTree.Error

set_option autoImplicit false

namespace FormulaTree

/-- A function by its name and the number of its arguments, any number if that is negative. It
reports a failure by a message. -/
structure Builtin where
  name : String
  arity : Int
  apply : List Value → Except String Value

namespace Builtin

def arityMessage (arity : Int) (count : Nat) : String :=
  "expected " ++ String.ofList (Text.writeInteger arity) ++ " argument(s), got "
    ++ decimalText count

def call (f : Builtin) (args : List Value) : Except Error Value :=
  if 0 ≤ f.arity ∧ (args.length : Int) ≠ f.arity then
    .error (.functionFailed f.name (arityMessage f.arity args.length))
  else (f.apply args).mapError (.functionFailed f.name)

def describe (f : Builtin) : String :=
  "BuiltinFn(" ++ f.name ++ ")"

end Builtin

structure Library where
  functions : List (String × Builtin) := []
  constants : List (String × Value) := []

namespace Library

def define (library : Library) (f : Builtin) : Library :=
  { library with functions := Bindings.set f.name f library.functions }

def defineConstant (library : Library) (name : String) (value : Value) : Library :=
  { library with constants := Bindings.set name value library.constants }

def function? (library : Library) (name : String) : Option Builtin :=
  Bindings.get? name library.functions

def constant? (library : Library) (name : String) : Option Value :=
  Bindings.get? name library.constants

def resolve (library : Library) (name : String) : Except Error Builtin :=
  match library.function? name with
  | some f => .ok f
  | none => .error (.unknownFunction name)

end Library

end FormulaTree
