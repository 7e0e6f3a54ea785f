import FormulaTree.Formula.Basic
import FormulaTree.Value.Equality

set_option autoImplicit false

namespace FormulaTree.Formula

mutual

def equal : Formula → Formula → Bool
  | .constant v, .constant w => v.equal w
  | .symbol s, .symbol t => s == t
  | .assignment a b, .assignment c d => equal a c && equal b d
  | .block ss, .block ts => equalStatements ss ts
  | .operation op fn xs, .operation op' fn' ys => op == op' && fn == fn' && equalAll xs ys
  | .parenthesis a, .parenthesis b => equal a b
  | .call fn xs, .call fn' ys => fn == fn' && equalAll xs ys
  | .conditional cs bs, .conditional cs' bs' => equalAll cs cs' && equalAll bs bs'
  | _, _ => false

def equalAll : List Formula → List Formula → Bool
  | [], [] => true
  | x :: xs, y :: ys => equal x y && equalAll xs ys
  | _, _ => false

def equalStatements : List (Formula × Bool) → List (Formula × Bool) → Bool
  | [], [] => true
  | (x, visible) :: xs, (y, visible') :: ys =>
    equal x y && visible == visible' && equalStatements xs ys
  | _, _ => false

end

mutual

def same : Formula → Formula → Bool
  | .constant v, .constant w => v = w
  | .symbol s, .symbol t => s = t
  | .assignment a b, .assignment c d => same a c && same b d
  | .block ss, .block ts => sameStatements ss ts
  | .operation op fn xs, .operation op' fn' ys => op = op' && (fn = fn' && sameAll xs ys)
  | .parenthesis a, .parenthesis b => same a b
  | .call fn xs, .call fn' ys => fn = fn' && sameAll xs ys
  | .conditional cs bs, .conditional cs' bs' => sameAll cs cs' && sameAll bs bs'
  | _, _ => false

def sameAll : List Formula → List Formula → Bool
  | [], [] => true
  | x :: xs, y :: ys => same x y && sameAll xs ys
  | _, _ => false

def sameStatements : List (Formula × Bool) → List (Formula × Bool) → Bool
  | [], [] => true
  | (x, visible) :: xs, (y, visible') :: ys =>
    same x y && (visible = visible' && sameStatements xs ys)
  | _, _ => false

end

mutual

theorem same_iff : ∀ a b : Formula, same a b = true ↔ a = b
  | .constant _, b => by cases b <;> simp [same]
  | .symbol _, b => by cases b <;> simp [same]
  | .assignment t v, b => by cases b <;> simp [same, same_iff t, same_iff v]
  | .block ss, b => by cases b <;> simp [same, sameStatements_iff ss]
  | .operation _ _ xs, b => by cases b <;> simp [same, sameAll_iff xs]
  | .parenthesis a, b => by cases b <;> simp [same, same_iff a]
  | .call _ xs, b => by cases b <;> simp [same, sameAll_iff xs]
  | .conditional cs bs, b => by cases b <;> simp [same, sameAll_iff cs, sameAll_iff bs]

theorem sameAll_iff : ∀ xs ys : List Formula, sameAll xs ys = true ↔ xs = ys
  | [], ys => by cases ys <;> simp [sameAll]
  | x :: xs, ys => by
    cases ys with
    | nil => simp [sameAll]
    | cons y ys => simp [sameAll, same_iff x y, sameAll_iff xs ys]

theorem sameStatements_iff :
    ∀ xs ys : List (Formula × Bool), sameStatements xs ys = true ↔ xs = ys
  | [], ys => by cases ys <;> simp [sameStatements]
  | (x, visible) :: xs, ys => by
    cases ys with
    | nil => simp [sameStatements]
    | cons entry ys =>
      obtain ⟨y, visible'⟩ := entry
      simp [sameStatements, same_iff x y, sameStatements_iff xs ys, and_assoc]

end

instance : DecidableEq Formula := fun a b => decidable_of_iff _ (same_iff a b)

end FormulaTree.Formula
