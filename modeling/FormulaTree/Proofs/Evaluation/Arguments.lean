import FormulaTree.Evaluation.Prelude
import Mathlib.Data.List.Basic

set_option autoImplicit false

namespace FormulaTree

/-- A computation that takes arguments by their number; it comes to nothing at all when it takes one
that is not there. -/
abbrev Taking := ExceptT String Option

abbrev Body := List Value → Taking Value

def Builtin.callByNumber (f : Builtin) (body : Body) (args : List Value) :
    Option (Except Error Value) :=
  if 0 ≤ f.arity ∧ (args.length : Int) ≠ f.arity then
    some (.error (.functionFailed f.name (arityMessage f.arity args.length)))
  else (body args).run.map (Except.mapError (.functionFailed f.name))

/-- With the body in its place the function does the same, and every argument that is taken is
there. -/
def Builtin.Takes (f : Builtin) (body : Body) : Prop :=
  ∀ args, f.callByNumber body args = some (f.call args)

/-- A body needs to be right only for the argument lists that pass the check. -/
theorem Builtin.takes_of_apply {f : Builtin} {body : Body}
    (h : ∀ args : List Value, (0 ≤ f.arity → (args.length : Int) = f.arity) →
      (body args).run = some (f.apply args)) : f.Takes body := by
  intro args
  unfold callByNumber call
  split
  · rfl
  · rename_i passes
    rw [h args fun fixed => Decidable.byContradiction fun other => passes ⟨fixed, other⟩]
    rfl

theorem Builtin.takes_of_one {f : Builtin} {body : Body} (arity : f.arity = 1)
    (h : ∀ a, (body [a]).run = some (f.apply [a])) : f.Takes body := by
  refine takes_of_apply fun args count => ?_
  have one : args.length = 1 := by omega
  obtain ⟨a, rfl⟩ := List.length_eq_one_iff.1 one
  exact h a

theorem Builtin.takes_of_two {f : Builtin} {body : Body} (arity : f.arity = 2)
    (h : ∀ a b, (body [a, b]).run = some (f.apply [a, b])) : f.Takes body := by
  refine takes_of_apply fun args count => ?_
  have two : args.length = 2 := by omega
  obtain ⟨a, b, rfl⟩ := List.length_eq_two.1 two
  exact h a b

namespace Prelude

def argument (args : List Value) (i : Nat) : Taking Value :=
  ExceptT.lift args[i]?

def takeNumber (args : List Value) (i : Nat) : Taking Float := do
  MonadExcept.ofExcept (number (← argument args i))

def takeTruth (args : List Value) (i : Nat) : Taking Bool := do
  MonadExcept.ofExcept (truth (← argument args i))

def ofNumber (f : Float → Value) : Body := fun args => do
  return f (← takeNumber args 0)

def ofNumbers (f : Float → Float → Value) : Body := fun args => do
  return f (← takeNumber args 0) (← takeNumber args 1)

def ofTruth (f : Bool → Value) : Body := fun args => do
  return f (← takeTruth args 0)

def ofTruths (decisive : Bool) : Body := fun args => do
  let p ← takeTruth args 0
  if p = decisive then return .bool decisive
  else return .bool (← takeTruth args 1)

def ofValue (f : Value → Except String Value) : Body := fun args => do
  MonadExcept.ofExcept (f (← argument args 0))

def ofValues (f : Value → Value → Value) : Body := fun args => do
  return f (← argument args 0) (← argument args 1)

def ofList (f : List Value → Except String Value) : Body := fun args =>
  MonadExcept.ofExcept (f args)

/-- The functions of the prelude, each with a body in its place. -/
def bodies : List (Builtin × Body) :=
  [ (numeric2 "add" (· + ·), ofNumbers fun x y => .number (x + y))
  , (numeric2 "subtract" (· - ·), ofNumbers fun x y => .number (x - y))
  , (numeric2 "multiply" (· * ·), ofNumbers fun x y => .number (x * y))
  , (numeric2 "divide" (· / ·), ofNumbers fun x y => .number (x / y))
  , (numeric2 "mod" modulo, ofNumbers fun x y => .number (modulo x y))
  , (numeric2 "pow" Float.pow, ofNumbers fun x y => .number (x.pow y))
  , (numeric1 "unaryMinus" (-·), ofNumber fun x => .number (-x))
  , (numeric1 "unaryPlus" id, ofNumber fun x => .number x)
  , (equality "equal" true, ofValues fun a b => .bool (looseEqual a b == true))
  , (equality "unequal" false, ofValues fun a b => .bool (looseEqual a b == false))
  , (comparison "smaller" fun x y => x < y, ofNumbers fun x y => .bool (x < y))
  , (comparison "larger" fun x y => x > y, ofNumbers fun x y => .bool (x > y))
  , (comparison "smallerEq" fun x y => x ≤ y, ofNumbers fun x y => .bool (x ≤ y))
  , (comparison "largerEq" fun x y => x ≥ y, ofNumbers fun x y => .bool (x ≥ y))
  , (negation, ofTruth fun p => .bool (!p))
  , (conjunction, ofTruths false)
  , (disjunction, ofTruths true)
  , (decimalFunction, ofValue toDecimal)
  , (complexFunction, ofNumbers .complex)
  , (unitFunction, ofList unitFunction.apply)
  , (matrixFunction, ofList matrixFunction.apply) ]

theorem map_fst_bodies : bodies.map Prod.fst = functions := rfl

theorem argument_eq {args : List Value} {i : Nat} {a : Value} (h : args[i]? = some a) :
    argument args i = pure a := by
  rw [argument, h]
  rfl

theorem takeNumber_eq {args : List Value} {i : Nat} {a : Value} (h : args[i]? = some a) :
    takeNumber args i = MonadExcept.ofExcept (number a) := by
  rw [takeNumber, argument_eq h, pure_bind]

theorem takeTruth_eq {args : List Value} {i : Nat} {a : Value} (h : args[i]? = some a) :
    takeTruth args i = MonadExcept.ofExcept (truth a) := by
  rw [takeTruth, argument_eq h, pure_bind]

theorem run_ofNumber (f : Float → Value) (a : Value) :
    (ofNumber f [a]).run = some (return f (← number a)) := by
  rw [ofNumber, takeNumber_eq rfl]
  cases number a <;> rfl

theorem run_ofNumbers (f : Float → Float → Value) (a b : Value) :
    (ofNumbers f [a, b]).run = some (return f (← number a) (← number b)) := by
  rw [ofNumbers, takeNumber_eq rfl, takeNumber_eq rfl]
  cases number a <;> cases number b <;> rfl

theorem run_ofTruth (f : Bool → Value) (a : Value) :
    (ofTruth f [a]).run = some (return f (← truth a)) := by
  rw [ofTruth, takeTruth_eq rfl]
  cases truth a <;> rfl

theorem run_ofTruths (decisive : Bool) (a b : Value) :
    (ofTruths decisive [a, b]).run = some (do
      let p ← truth a
      if p = decisive then return .bool decisive
      else return .bool (← truth b)) := by
  rw [ofTruths, takeTruth_eq rfl, takeTruth_eq rfl]
  rcases truth a with e | p
  · rfl
  · cases p <;> cases decisive <;> cases truth b <;> rfl

theorem run_ofValue (f : Value → Except String Value) (a : Value) :
    (ofValue f [a]).run = some (f a) := by
  rw [ofValue, argument_eq rfl, pure_bind]
  cases f a <;> rfl

theorem run_ofValues (f : Value → Value → Value) (a b : Value) :
    (ofValues f [a, b]).run = some (.ok (f a b)) := by
  rw [ofValues, argument_eq rfl, argument_eq rfl]
  rfl

theorem numeric1_takes (name : String) (f : Float → Float) :
    (numeric1 name f).Takes (ofNumber fun x => .number (f x)) :=
  Builtin.takes_of_one rfl (run_ofNumber _)

theorem numeric2_takes (name : String) (f : Float → Float → Float) :
    (numeric2 name f).Takes (ofNumbers fun x y => .number (f x y)) :=
  Builtin.takes_of_two rfl (run_ofNumbers _)

theorem comparison_takes (name : String) (f : Float → Float → Bool) :
    (comparison name f).Takes (ofNumbers fun x y => .bool (f x y)) :=
  Builtin.takes_of_two rfl (run_ofNumbers _)

theorem equality_takes (name : String) (expected : Bool) :
    (equality name expected).Takes (ofValues fun a b => .bool (looseEqual a b == expected)) :=
  Builtin.takes_of_two rfl (run_ofValues _)

theorem negation_takes : negation.Takes (ofTruth fun p => .bool (!p)) :=
  Builtin.takes_of_one rfl (run_ofTruth _)

theorem conjunction_takes : conjunction.Takes (ofTruths false) := by
  refine Builtin.takes_of_two rfl fun a b => (run_ofTruths false a b).trans (congrArg some ?_)
  dsimp only [conjunction]
  rcases truth a with e | p
  · rfl
  · cases p <;> cases truth b <;> rfl

theorem disjunction_takes : disjunction.Takes (ofTruths true) :=
  Builtin.takes_of_two rfl (run_ofTruths true)

theorem decimalFunction_takes : decimalFunction.Takes (ofValue toDecimal) :=
  Builtin.takes_of_one rfl (run_ofValue _)

theorem complexFunction_takes : complexFunction.Takes (ofNumbers .complex) :=
  Builtin.takes_of_two rfl (run_ofNumbers _)

theorem takes_ofList (f : Builtin) : f.Takes (ofList f.apply) := by
  refine Builtin.takes_of_apply fun args _ => ?_
  rw [ofList]
  cases f.apply args <;> rfl

theorem takes_of_mem_bodies : ∀ entry ∈ bodies, entry.1.Takes entry.2 := by
  simp only [bodies, List.forall_mem_cons]
  refine ⟨numeric2_takes _ _, numeric2_takes _ _, numeric2_takes _ _, numeric2_takes _ _,
    numeric2_takes _ _, numeric2_takes _ _, numeric1_takes _ _, numeric1_takes _ _,
    equality_takes _ _, equality_takes _ _,
    comparison_takes _ _, comparison_takes _ _, comparison_takes _ _, comparison_takes _ _,
    negation_takes, conjunction_takes, disjunction_takes, decimalFunction_takes,
    complexFunction_takes, takes_ofList _, takes_ofList _, by simp⟩

end Prelude

end FormulaTree
