import FormulaTree.Double.Shortest

set_option autoImplicit false

namespace FormulaTree.Double

/-- The decisions of a format. A double `0.d₁d₂… * 10 ^ p` with `positional p` is written with its
point in place, any other as `d₁.d₂…e±x`; `wholePoint` asks for `.0` after a whole number. -/
structure Layout where
  tie : Tie
  positional : Int → Bool
  wholePoint : Bool

def zeros (n : Nat) : List Char :=
  List.replicate n '0'

def placePoint (wholePoint : Bool) (digits : List Char) (p : Int) : List Char :=
  if p ≤ 0 then '0' :: '.' :: zeros p.natAbs ++ digits
  else
    let whole := p.toNat
    if digits.length ≤ whole then
      digits ++ zeros (whole - digits.length) ++ (if wholePoint then ['.', '0'] else [])
    else digits.take whole ++ '.' :: digits.drop whole

def placeExponent (digits : List Char) (p : Int) : List Char :=
  let exponent := p - 1
  let mark := if exponent < 0 then ['e', '-'] else ['e', '+']
  let rest := digits.drop 1
  digits.take 1 ++ (if rest.isEmpty then [] else '.' :: rest) ++ mark
    ++ Text.writeNatural exponent.natAbs

def Layout.magnitude (layout : Layout) (x : Float) : List Char :=
  if significand x = 0 then placePoint layout.wholePoint ['0'] 1
  else
    let decimal := shortest layout.tie x
    let digits := Text.writeNatural decimal.significand
    let p := decimal.exponent + digits.length
    if layout.positional p then placePoint layout.wholePoint digits p
    else placeExponent digits p

def Layout.write (layout : Layout) (x : Float) : String :=
  String.ofList ((if isNegative x then ['-'] else []) ++ layout.magnitude x)

end FormulaTree.Double
