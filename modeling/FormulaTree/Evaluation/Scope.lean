import FormulaTree.Value.Equality

set_option autoImplicit false

namespace FormulaTree

structure Scope where
  bindings : List (String × Value) := []
deriving DecidableEq, Inhabited

namespace Scope

def get? (scope : Scope) (name : String) : Option Value :=
  Bindings.get? name scope.bindings

def set (scope : Scope) (name : String) (value : Value) : Scope :=
  ⟨Bindings.set name value scope.bindings⟩

def remove (scope : Scope) (name : String) : Scope :=
  ⟨Bindings.remove name scope.bindings⟩

def clear (scope : Scope) : Scope :=
  { scope with bindings := [] }

def exchange (scope : Scope) (name : String) (value : Value) : Option Value × Scope :=
  let (previous, bindings) := Bindings.exchange name value scope.bindings
  (previous, ⟨bindings⟩)

def take (scope : Scope) (name : String) : Option Value × Scope :=
  let (previous, bindings) := Bindings.take name scope.bindings
  (previous, ⟨bindings⟩)

def contains (scope : Scope) (name : String) : Bool :=
  Bindings.contains name scope.bindings

def names (scope : Scope) : List String :=
  Bindings.names scope.bindings

def size (scope : Scope) : Nat :=
  scope.bindings.length

def isEmpty (scope : Scope) : Bool :=
  scope.bindings.isEmpty

def ofList (pairs : List (String × Value)) : Scope :=
  ⟨Bindings.ofList pairs⟩

def equal (a b : Scope) : Bool :=
  a.bindings.length == b.bindings.length && Value.equalEntries a.bindings b.bindings

theorem exchange_eq (scope : Scope) (name : String) (value : Value) :
    scope.exchange name value = (scope.get? name, scope.set name value) := by
  simp [exchange, Bindings.exchange_eq, get?, set]

theorem take_eq (scope : Scope) (name : String) :
    scope.take name = (scope.get? name, scope.remove name) := by
  simp [take, Bindings.take_eq, get?, remove]

end Scope

structure Args where
  values : List (String × Value) := []
deriving DecidableEq, Inhabited

namespace Args

def get? (args : Args) (name : String) : Option Value :=
  Bindings.get? name args.values

def set (args : Args) (name : String) (value : Value) : Args :=
  ⟨Bindings.set name value args.values⟩

def contains (args : Args) (name : String) : Bool :=
  Bindings.contains name args.values

def names (args : Args) : List String :=
  Bindings.names args.values

def ofList (pairs : List (String × Value)) : Args :=
  ⟨Bindings.ofList pairs⟩

end Args

/-- What accompanies an evaluation without taking part in it. -/
structure Context where
  value : Option Value := none
  trace : Bool := false
deriving DecidableEq, Inhabited

end FormulaTree
