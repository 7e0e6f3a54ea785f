import Mathlib

set_option autoImplicit false

namespace FormulaTree.Double

open Float.Model

theorem eq_ofModel_pack {x : Float} {f : UnpackedFloat} (h : x.toModel.unpack = f) :
    x = .ofModel (Float.Model.pack f) := by
  rw [← Float.toBits_inj, ← UInt64.toBitVec_inj, ← h]
  exact (UnpackedFloat.pack_unpack_of_valid x.toModel.valid).symm

theorem eq_infinity {x : Float} (h : x.isInf = true) :
    x = if 0.0 < x then 1.0 / 0.0 else -1.0 / 0.0 := by
  obtain ⟨sign, unpacked⟩ : ∃ sign, x.toModel.unpack = .infinity sign := by
    unfold Float.isInf Float.Model.isInf UnpackedFloat.isInf at h
    split at h
    · exact ⟨_, by assumption⟩
    · cases h
  rw [eq_ofModel_pack unpacked]
  cases sign <;> decide

theorem isNaN_or_isInf {x : Float} (h : x.isFinite = false) : x.isNaN = true ∨ x.isInf = true := by
  unfold Float.isFinite Float.Model.isFinite at h
  unfold Float.isNaN Float.Model.isNaN Float.isInf Float.Model.isInf
  cases unpacked : x.toModel.unpack with
  | infinity sign => exact .inr rfl
  | notANumber => exact .inl rfl
  | zero sign =>
    rw [unpacked] at h
    cases h
  | finite sign mantissa exponent pos =>
    rw [unpacked] at h
    cases h

theorem isNaN_isInf_of_isFinite {x : Float} (h : x.isFinite = true) :
    x.isNaN = false ∧ x.isInf = false := by
  unfold Float.isFinite Float.Model.isFinite at h
  unfold Float.isNaN Float.Model.isNaN Float.isInf Float.Model.isInf
  cases unpacked : x.toModel.unpack with
  | notANumber =>
    rw [unpacked] at h
    cases h
  | infinity sign =>
    rw [unpacked] at h
    cases h
  | _ => exact ⟨rfl, rfl⟩

end FormulaTree.Double
