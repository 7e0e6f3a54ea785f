import FormulaTree.Double.Shortest
import FormulaTree.Proofs.Double.Special

set_option autoImplicit false

namespace FormulaTree.Double

open Float.Model UnpackedFloat

section components

variable {spec : Format}

theorem isFinite_unpack_iff (bits : BitVec spec.numBits) :
    (UnpackedFloat.unpack spec bits).isFinite = true ↔ unpackExponent bits ≠ -1#_ := by
  unfold UnpackedFloat.unpack
  by_cases top : unpackExponent bits = -1#_
  · by_cases none : unpackMantissa bits = 0#_
    · simp [top, none, UnpackedFloat.isFinite]
    · simp [top, none, UnpackedFloat.isFinite]
  · by_cases bottom : unpackExponent bits = 0#_
    · by_cases none : unpackMantissa bits = 0#_
      · simp_all [UnpackedFloat.isFinite]
      · simp_all [UnpackedFloat.isFinite]
    · simp_all [UnpackedFloat.isFinite]

theorem unpack_abs {bits : BitVec spec.numBits} (finite : unpackExponent bits ≠ -1#_) :
    (UnpackedFloat.unpack spec bits).abs
      = UnpackedFloat.unpack spec
        (packComponents spec .positive (unpackExponent bits) (unpackMantissa bits)) := by
  unfold UnpackedFloat.unpack
  simp only [unpackExponent_packComponents, unpackMantissa_packComponents,
    unpackSign_packComponents, Sign.ofBitVec_toBitVec]
  by_cases bottom : unpackExponent bits = 0#_
  · by_cases none : unpackMantissa bits = 0#_
    · simp_all [UnpackedFloat.abs]
    · simp_all [UnpackedFloat.abs]
  · simp_all [UnpackedFloat.abs]

theorem unpack_neg {bits : BitVec spec.numBits} (finite : unpackExponent bits ≠ -1#_) :
    (UnpackedFloat.unpack spec bits).neg
      = UnpackedFloat.unpack spec (packComponents spec (-Sign.ofBitVec (unpackSign bits))
        (unpackExponent bits) (unpackMantissa bits)) := by
  unfold UnpackedFloat.unpack
  simp only [unpackExponent_packComponents, unpackMantissa_packComponents,
    unpackSign_packComponents, Sign.ofBitVec_toBitVec]
  by_cases bottom : unpackExponent bits = 0#_
  · by_cases none : unpackMantissa bits = 0#_
    · simp_all [UnpackedFloat.neg]
    · simp_all [UnpackedFloat.neg]
  · simp_all [UnpackedFloat.neg]

end components

def bits (x : Float) : BitVec Format.binary64.numBits :=
  x.toBits.toBitVec

theorem isFinite_iff (x : Float) : x.isFinite = true ↔ unpackExponent (bits x) ≠ -1#_ :=
  isFinite_unpack_iff (bits x)

theorem exponentField_eq (x : Float) : exponentField x = (unpackExponent (bits x)).toNat := by
  rw [unpackExponent_def, BitVec.extractLsb'_toNat, Nat.shiftRight_eq_div_pow]
  rfl

theorem fractionField_eq (x : Float) : fractionField x = (unpackMantissa (bits x)).toNat := by
  rw [unpackMantissa_def, BitVec.extractLsb'_toNat]
  rfl

theorem isNegative_eq (x : Float) : isNegative x = decide (unpackSign (bits x) = 1#1) := by
  have small : (bits x).toNat < 2 ^ 64 := (bits x).isLt
  have sign : (unpackSign (bits x)).toNat = (bits x).toNat / 2 ^ 63 % 2 := by
    rw [unpackSign_def, BitVec.extractLsb'_toNat, Nat.shiftRight_eq_div_pow]
    rfl
  rw [isNegative, decide_eq_decide, ← BitVec.toNat_inj, sign]
  change 2 ^ 63 ≤ (bits x).toNat ↔ (bits x).toNat / 2 ^ 63 % 2 = 1
  omega

theorem bits_abs {x : Float} (finite : x.isFinite = true) :
    bits x.abs
      = packComponents .binary64 .positive (unpackExponent (bits x)) (unpackMantissa (bits x)) := by
  have below := (isFinite_iff x).1 finite
  change (UnpackedFloat.unpack Format.binary64 (bits x)).abs.pack Format.binary64 = _
  rw [unpack_abs below]
  refine pack_unpack_of_valid ⟨fun top => ?_⟩
  rw [unpackExponent_packComponents] at top
  exact absurd top below

theorem bits_neg {x : Float} (finite : x.isFinite = true) :
    bits (-x) = packComponents .binary64 (-Sign.ofBitVec (unpackSign (bits x)))
      (unpackExponent (bits x)) (unpackMantissa (bits x)) := by
  have below := (isFinite_iff x).1 finite
  change (UnpackedFloat.unpack Format.binary64 (bits x)).neg.pack Format.binary64 = _
  rw [unpack_neg below]
  refine pack_unpack_of_valid ⟨fun top => ?_⟩
  rw [unpackExponent_packComponents] at top
  exact absurd top below

theorem fields_of_bits {x : Float} {sign : Sign} {exponent : BitVec 11} {fraction : BitVec 52}
    (h : bits x = packComponents .binary64 sign exponent fraction) :
    isNegative x = decide (sign.toBitVec = 1#1) ∧ exponentField x = exponent.toNat ∧
      fractionField x = fraction.toNat := by
  rw [isNegative_eq, exponentField_eq, fractionField_eq, h, unpackSign_packComponents,
    unpackExponent_packComponents, unpackMantissa_packComponents]
  exact ⟨rfl, rfl, rfl⟩

theorem fields_abs {x : Float} (finite : x.isFinite = true) :
    x.abs.isFinite = true ∧ isNegative x.abs = false ∧ exponentField x.abs = exponentField x ∧
      fractionField x.abs = fractionField x := by
  have same := bits_abs finite
  rw [exponentField_eq x, fractionField_eq x, isFinite_iff, same, unpackExponent_packComponents]
  exact ⟨(isFinite_iff x).1 finite, fields_of_bits same⟩

theorem sign_neg {sign : BitVec 1} :
    decide ((-Sign.ofBitVec sign).toBitVec = 1#1) = !decide (sign = 1#1) := by
  revert sign
  decide

theorem fields_neg {x : Float} (finite : x.isFinite = true) :
    isNegative (-x) = !isNegative x ∧ exponentField (-x) = exponentField x ∧
      fractionField (-x) = fractionField x := by
  rw [exponentField_eq x, fractionField_eq x, isNegative_eq x, ← sign_neg]
  exact fields_of_bits (bits_neg finite)

theorem toNat_toBits (x : Float) :
    x.toBits.toNat
      = (if isNegative x then 2 ^ 63 else 0) + exponentField x * 2 ^ 52 + fractionField x := by
  have small : x.toBits.toNat < 2 ^ 64 := x.toBits.toNat_lt
  unfold isNegative exponentField fractionField
  simp only [decide_eq_true_eq, Nat.pow_eq]
  split <;> omega

theorem eq_of_fields {x y : Float} (sign : isNegative x = isNegative y)
    (exponent : exponentField x = exponentField y)
    (fraction : fractionField x = fractionField y) : x = y := by
  rw [← Float.toBits_inj, ← UInt64.toNat_inj, toNat_toBits, toNat_toBits, sign, exponent, fraction]

end FormulaTree.Double
