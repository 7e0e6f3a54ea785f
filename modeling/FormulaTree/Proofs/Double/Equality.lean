import FormulaTree.Proofs.Double.Special

set_option autoImplicit false

namespace FormulaTree.Double

def IsZero (x : Float) : Prop :=
  x = 0.0 ∨ x = -0.0

theorem beq_comm (x y : Float) : (x == y) = (y == x) := by
  rw [Bool.eq_iff_iff, Float.beq_iff_ne_nan_and_eq, Float.beq_iff_ne_nan_and_eq]
  grind

theorem beq_trans {x y z : Float} (h : (x == y) = true) (h' : (y == z) = true) :
    (x == z) = true := by
  rw [Float.beq_iff_ne_nan_and_eq] at h h' ⊢
  grind

theorem beq_self_iff {x : Float} : (x == x) = true ↔ x.isNaN = false := by
  rw [Float.isNaN_eq_decide_eq_nan, decide_eq_false_iff_not, Float.beq_self_iff]

theorem isNaN_of_beq {x y : Float} (h : (x == y) = true) : x.isNaN = false :=
  beq_self_iff.1 (beq_trans h (by rwa [beq_comm]))

theorem beq_zero_iff {x : Float} : (x == 0.0) = true ↔ IsZero x := by
  have zero : (0.0 : Float) = 0 := by decide
  have number : (0 : Float) ≠ Float.nan := by decide
  have number' : (-0 : Float) ≠ Float.nan := by decide
  rw [IsZero, zero, Float.beq_iff_ne_nan_and_eq]
  constructor
  · rintro ⟨-, -, same | ⟨same, -⟩ | ⟨same, -⟩⟩
    · exact .inl same
    · exact .inl same
    · exact .inr same
  · rintro (rfl | rfl)
    · exact ⟨number, number, .inl rfl⟩
    · exact ⟨number', number, .inr (.inr ⟨rfl, rfl⟩)⟩

theorem isNaN_of_isZero {x : Float} (h : IsZero x) : x.isNaN = false :=
  isNaN_of_beq (beq_zero_iff.2 h)

end FormulaTree.Double
