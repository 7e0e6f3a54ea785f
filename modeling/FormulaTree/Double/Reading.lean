import FormulaTree.Text.Numeral

set_option autoImplicit false

namespace FormulaTree.Double

def decimalLength (n : Nat) : Nat :=
  (Text.writeNatural n).length

def withSign (negative : Bool) (x : Float) : Float :=
  if negative then -x else x

/-- The double nearest to `± significand * 10 ^ exponent`, the even one of two that are equally
near. Exponents far outside the range of doubles are settled before a power of ten is computed. -/
def ofDecimal (negative : Bool) (significand : Nat) (exponent : Int) : Float :=
  let top := exponent + decimalLength significand
  withSign negative <|
    if significand = 0 ∨ top < -330 then 0.0
    else if 330 < top then 1.0 / 0.0
    else Float.ofScientific significand (exponent < 0) exponent.natAbs

end FormulaTree.Double
