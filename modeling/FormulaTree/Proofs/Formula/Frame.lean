import FormulaTree.Proofs.Formula.Parts

set_option autoImplicit false

namespace FormulaTree.Formula

inductive Frame where
  | constant (value : Value)
  | symbol (name : String)
  | assignment
  /-- Of each statement, whether its result is visible. -/
  | block (visible : List Bool)
  | operation (op function : String) (operands : Nat)
  | parenthesis
  | call (function : String) (arguments : Nat)
  | conditional (conditions blocks : Nat)

def frame : Formula → Frame
  | .constant value => .constant value
  | .symbol name => .symbol name
  | .assignment _ _ => .assignment
  | .block statements => .block (statements.map Prod.snd)
  | .operation op function operands => .operation op function operands.length
  | .parenthesis _ => .parenthesis
  | .call function arguments => .call function arguments.length
  | .conditional conditions blocks => .conditional conditions.length blocks.length

def Frame.kind : Frame → Kind
  | .constant _ => .constant
  | .symbol _ => .symbol
  | .assignment => .assignment
  | .block _ => .block
  | .operation _ _ _ => .operation
  | .parenthesis => .parenthesis
  | .call _ _ => .call
  | .conditional _ _ => .conditional

@[simp] theorem kind_frame (formula : Formula) : formula.frame.kind = formula.kind := by
  cases formula <;> rfl

theorem kind_eq_of_frame_eq {formula formula' : Formula} (h : formula.frame = formula'.frame) :
    formula.kind = formula'.kind := by
  rw [← kind_frame, ← kind_frame, h]

theorem frame_withParts {formula result : Formula} {parts : List Formula} (shape : formula.Shape)
    (count : parts.length = formula.children.length) (h : formula.withParts parts = .ok result) :
    result.frame = formula.frame := by
  cases formula with
  | constant value =>
    cases h
    rfl
  | symbol name =>
    cases h
    rfl
  | assignment target value =>
    obtain ⟨target', value', rfl⟩ := List.length_eq_two.1 count
    obtain ⟨rfl, -⟩ := checkedAssignment_shape h
    rfl
  | block statements =>
    obtain ⟨rfl, -⟩ := checkedBlock_shape h
    have same : parts.length = statements.length := by
      simpa [children, length_numbered] using count
    have flags : (parts.zip (statements.map Prod.snd)).map Prod.snd = statements.map Prod.snd :=
      List.map_snd_zip (by simp [same])
    rw [frame, frame, flags]
  | operation op function operands =>
    obtain ⟨rfl, -⟩ := checkedOperation_shape h
    have same : parts.length = operands.length := by
      simpa [children, length_numbered] using count
    rw [frame, frame, same]
  | parenthesis content =>
    obtain ⟨content', rfl⟩ := List.length_eq_one_iff.1 count
    cases h
    rfl
  | call function arguments =>
    cases h
    have same : parts.length = arguments.length := by
      simpa [children, length_numbered] using count
    rw [frame, frame, same]
  | conditional conditions blocks =>
    obtain ⟨rfl, -⟩ := checkedConditional_shape h
    obtain ⟨fst, snd⟩ := length_unbraid shape.2 (show parts.length = _ from count)
    rw [frame, frame, fst, snd]

/-- What parts make depends on the frame that they are put into, and on nothing else. -/
theorem withParts_congr {formula formula' : Formula} (h : formula.frame = formula'.frame)
    {parts : List Formula} (count : parts.length = formula.children.length) :
    formula.withParts parts = formula'.withParts parts := by
  cases formula with
  | constant value => cases formula' <;> simp_all [frame, withParts]
  | symbol name => cases formula' <;> simp_all [frame, withParts]
  | assignment target value =>
    obtain ⟨target', value', rfl⟩ := List.length_eq_two.1 count
    cases formula' <;> simp_all [frame, withParts]
  | block statements => cases formula' <;> simp_all [frame, withParts]
  | operation op function operands => cases formula' <;> simp_all [frame, withParts]
  | parenthesis content =>
    obtain ⟨content', rfl⟩ := List.length_eq_one_iff.1 count
    cases formula' <;> simp_all [frame, withParts]
  | call function arguments => cases formula' <;> simp_all [frame, withParts]
  | conditional conditions blocks => cases formula' <;> simp_all [frame, withParts]

end FormulaTree.Formula
