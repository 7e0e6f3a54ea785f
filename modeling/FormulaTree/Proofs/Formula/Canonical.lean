import FormulaTree.Formula.Equality
import FormulaTree.Proofs.Formula.Sound
import FormulaTree.Proofs.Value.Canonical

set_option autoImplicit false

namespace FormulaTree.Formula

mutual

def canonical : Formula → Formula
  | .constant value => .constant value.canonical
  | .symbol name => .symbol name
  | .assignment target value => .assignment (canonical target) (canonical value)
  | .block statements => .block (statementsCanonical statements)
  | .operation op function operands => .operation op function (allCanonical operands)
  | .parenthesis content => .parenthesis (canonical content)
  | .call function arguments => .call function (allCanonical arguments)
  | .conditional conditions blocks =>
    .conditional (allCanonical conditions) (allCanonical blocks)

def allCanonical : List Formula → List Formula
  | [] => []
  | formula :: rest => canonical formula :: allCanonical rest

def statementsCanonical : List (Formula × Bool) → List (Formula × Bool)
  | [] => []
  | (statement, visible) :: rest => (canonical statement, visible) :: statementsCanonical rest

end

mutual

def hasNaN : Formula → Bool
  | .constant value => value.hasNaN
  | .symbol _ => false
  | .assignment target value => hasNaN target || hasNaN value
  | .block statements => statementNaN statements
  | .operation _ _ operands => anyNaN operands
  | .parenthesis content => hasNaN content
  | .call _ arguments => anyNaN arguments
  | .conditional conditions blocks => anyNaN conditions || anyNaN blocks

def anyNaN : List Formula → Bool
  | [] => false
  | formula :: rest => hasNaN formula || anyNaN rest

def statementNaN : List (Formula × Bool) → Bool
  | [] => false
  | (statement, _) :: rest => hasNaN statement || statementNaN rest

end

theorem length_allCanonical (formulas : List Formula) :
    (allCanonical formulas).length = formulas.length := by
  induction formulas with
  | nil => rfl
  | cons formula rest ih => rw [allCanonical, List.length_cons, ih, List.length_cons]

theorem allCanonical_ne_nil {formulas : List Formula} (h : formulas ≠ []) :
    allCanonical formulas ≠ [] := by
  cases formulas with
  | nil => exact absurd rfl h
  | cons formula rest => exact List.cons_ne_nil _ _

theorem statementsCanonical_ne_nil {statements : List (Formula × Bool)} (h : statements ≠ []) :
    statementsCanonical statements ≠ [] := by
  cases statements with
  | nil => exact absurd rfl h
  | cons entry rest => exact List.cons_ne_nil _ _

mutual

theorem canonical_equal : ∀ {formula : Formula}, formula.Sound → formula.hasNaN = false →
    formula.canonical.equal formula = true
  | .constant value, sound, number =>
    value.canonical_equal (sound_constant_iff.1 sound) number
  | .symbol name, _, _ => by simp [canonical, equal]
  | .assignment target value, sound, number => by
    obtain ⟨-, target_sound, value_sound⟩ := sound_assignment_iff.1 sound
    simp only [hasNaN, Bool.or_eq_false_iff] at number
    simp only [canonical, equal, Bool.and_eq_true]
    exact ⟨canonical_equal target_sound number.1, canonical_equal value_sound number.2⟩
  | .block statements, sound, number =>
    statementsCanonical_equal (sound_block_iff.1 sound).2 number
  | .operation op function operands, sound, number => by
    have same := allCanonical_equal (sound_operation_iff.1 sound).2 number
    simp [canonical, equal, same]
  | .parenthesis content, sound, number => by
    have same := canonical_equal (sound_parenthesis_iff.1 sound) number
    simpa only [canonical, equal] using same
  | .call function arguments, sound, number => by
    have same := allCanonical_equal (sound_call_iff.1 sound) number
    simp [canonical, equal, same]
  | .conditional conditions blocks, sound, number => by
    obtain ⟨-, conditions_sound, blocks_sound⟩ := sound_conditional_iff.1 sound
    simp only [hasNaN, Bool.or_eq_false_iff] at number
    simp only [canonical, equal, Bool.and_eq_true]
    exact ⟨allCanonical_equal conditions_sound number.1, allCanonical_equal blocks_sound number.2⟩

theorem allCanonical_equal : ∀ {formulas : List Formula}, (∀ formula ∈ formulas, formula.Sound) →
    anyNaN formulas = false → equalAll (allCanonical formulas) formulas = true
  | [], _, _ => rfl
  | formula :: rest, sound, number => by
    obtain ⟨first, later⟩ := List.forall_mem_cons.1 sound
    simp only [anyNaN, Bool.or_eq_false_iff] at number
    simp only [allCanonical, equalAll, Bool.and_eq_true]
    exact ⟨canonical_equal first number.1, allCanonical_equal later number.2⟩

theorem statementsCanonical_equal : ∀ {statements : List (Formula × Bool)},
    (∀ entry ∈ statements, entry.1.Sound) → statementNaN statements = false →
    equalStatements (statementsCanonical statements) statements = true
  | [], _, _ => rfl
  | (statement, visible) :: rest, sound, number => by
    obtain ⟨first, later⟩ := List.forall_mem_cons.1 sound
    simp only [statementNaN, Bool.or_eq_false_iff] at number
    simp only [statementsCanonical, equalStatements, Bool.and_eq_true, beq_self_eq_true, and_true]
    exact ⟨canonical_equal first number.1, statementsCanonical_equal later number.2⟩

end

end FormulaTree.Formula
