import FormulaTree.Value.Basic
import FormulaTree.Bindings

/-!
# Equality of values

Two notions. `Value.equal` is equality in the sense of the language: numbers compare as doubles, so
NaN differs from itself and the zeros agree, and objects compare key by key in any order. Equality
of Lean, which tells apart all that differs in any way, is decidable, and `Value.same` decides it.
-/

set_option autoImplicit false

namespace FormulaTree

namespace Value

def equalMagnitude : Option Float → Option Float → Bool
  | none, none => true
  | some x, some y => x == y
  | _, _ => false

mutual

/-- Equality in the language; values of different kinds are never equal. -/
def equal : Value → Value → Bool
  | .null, .null => true
  | .bool a, .bool b => a == b
  | .number x, .number y => x == y
  | .string s, .string t => s == t
  | .decimal d, .decimal e => d == e
  | .complex a b, .complex c d => a == c && b == d
  | .unit x s, .unit y t => equalMagnitude x y && s == t
  | .matrix xs, .matrix ys => equalItems xs ys
  | .object es, .object fs => es.length == fs.length && equalEntries es fs
  | .resultSet xs, .resultSet ys => equalItems xs ys
  | _, _ => false

def equalItems : List Value → List Value → Bool
  | [], [] => true
  | x :: xs, y :: ys => equal x y && equalItems xs ys
  | _, _ => false

def equalEntries : List (String × Value) → List (String × Value) → Bool
  | [], _ => true
  | (key, value) :: rest, others =>
    (match Bindings.get? key others with
      | some other => equal value other
      | none => false)
    && equalEntries rest others

end

mutual

def same : Value → Value → Bool
  | .null, .null => true
  | .bool a, .bool b => a = b
  | .number x, .number y => x = y
  | .string s, .string t => s = t
  | .decimal d, .decimal e => d = e
  | .complex a b, .complex c d => a = c && b = d
  | .unit x s, .unit y t => x = y && s = t
  | .matrix xs, .matrix ys => sameItems xs ys
  | .object es, .object fs => sameEntries es fs
  | .resultSet xs, .resultSet ys => sameItems xs ys
  | _, _ => false

def sameItems : List Value → List Value → Bool
  | [], [] => true
  | x :: xs, y :: ys => same x y && sameItems xs ys
  | _, _ => false

def sameEntries : List (String × Value) → List (String × Value) → Bool
  | [], [] => true
  | (j, x) :: xs, (k, y) :: ys => j = k && (same x y && sameEntries xs ys)
  | _, _ => false

end

mutual

theorem same_iff : ∀ a b : Value, same a b = true ↔ a = b
  | .null, b => by cases b <;> simp [same]
  | .bool _, b => by cases b <;> simp [same]
  | .number _, b => by cases b <;> simp [same]
  | .string _, b => by cases b <;> simp [same]
  | .decimal _, b => by cases b <;> simp [same]
  | .complex _ _, b => by cases b <;> simp [same]
  | .unit _ _, b => by cases b <;> simp [same]
  | .matrix xs, b => by cases b <;> simp [same, sameItems_iff xs]
  | .object es, b => by cases b <;> simp [same, sameEntries_iff es]
  | .resultSet xs, b => by cases b <;> simp [same, sameItems_iff xs]

theorem sameItems_iff : ∀ xs ys : List Value, sameItems xs ys = true ↔ xs = ys
  | [], ys => by cases ys <;> simp [sameItems]
  | x :: xs, ys => by
    cases ys with
    | nil => simp [sameItems]
    | cons y ys => simp [sameItems, same_iff x y, sameItems_iff xs ys]

theorem sameEntries_iff : ∀ xs ys : List (String × Value), sameEntries xs ys = true ↔ xs = ys
  | [], ys => by cases ys <;> simp [sameEntries]
  | (j, x) :: xs, ys => by
    cases ys with
    | nil => simp [sameEntries]
    | cons entry ys =>
      obtain ⟨k, y⟩ := entry
      simp [sameEntries, same_iff x y, sameEntries_iff xs ys, and_assoc]

end

instance : DecidableEq Value := fun a b => decidable_of_iff _ (same_iff a b)

end Value

end FormulaTree
