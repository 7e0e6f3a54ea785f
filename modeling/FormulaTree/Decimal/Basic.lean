import FormulaTree.Double.Reading

/-!
# Decimals of any precision

A decimal is `mantissa * 10 ^ (- scale)` with an integer of any size and a scale of 64 bits.
Trailing zeros of the mantissa are always moved into the scale, as far as the scale can go, so each
number that can be written at all has one form and equality of forms is equality of numbers.
-/

set_option autoImplicit false

namespace FormulaTree

/-- Zero has scale zero, and any other mantissa ends in a zero only under the least scale. -/
def Decimal.Normal (mantissa : Int) (scale : Int64) : Prop :=
  (mantissa = 0 → scale = 0) ∧ (mantissa ≠ 0 → mantissa % 10 = 0 → scale = Int64.minValue)

structure Decimal where
  mantissa : Int
  scale : Int64
  normal : Decimal.Normal mantissa scale
deriving DecidableEq

namespace Decimal

def strip (mantissa : Int) (scale : Int64) : Int × Int64 :=
  if mantissa ≠ 0 ∧ mantissa % 10 = 0 ∧ scale ≠ Int64.minValue then
    strip (mantissa / 10) (scale - 1)
  else (mantissa, scale)
termination_by mantissa.natAbs
decreasing_by omega

theorem strip_ne_zero {mantissa : Int} (scale : Int64) (h : mantissa ≠ 0) :
    (strip mantissa scale).1 ≠ 0 := by
  fun_induction strip mantissa scale with
  | case1 mantissa scale more ih => exact ih (by omega)
  | case2 => exact h

theorem strip_mod_ten {mantissa : Int} (scale : Int64) (h : mantissa ≠ 0)
    (zero : (strip mantissa scale).1 % 10 = 0) :
    (strip mantissa scale).2 = Int64.minValue := by
  fun_induction strip mantissa scale with
  | case1 mantissa scale more ih => exact ih (by omega) zero
  | case2 mantissa scale done =>
    by_cases least : scale = Int64.minValue
    · exact least
    · exact absurd ⟨h, zero, least⟩ done

/-- The decimal `mantissa * 10 ^ (- scale)`. -/
def ofParts (mantissa : Int) (scale : Int64) : Decimal :=
  if h : mantissa = 0 then ⟨0, 0, by simp [Normal]⟩
  else
    ⟨(strip mantissa scale).1, (strip mantissa scale).2,
      fun zero => absurd zero (strip_ne_zero scale h), fun _ => strip_mod_ten scale h⟩

def isZero (d : Decimal) : Bool :=
  d.mantissa = 0

/-- The nearest double; magnitudes beyond the doubles become infinite or zero. -/
def toFloat (d : Decimal) : Float :=
  Double.ofDecimal (d.mantissa < 0) d.mantissa.natAbs (-d.scale.toInt)

end Decimal

end FormulaTree
