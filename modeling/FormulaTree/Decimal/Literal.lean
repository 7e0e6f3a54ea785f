import FormulaTree.Decimal.Basic
import FormulaTree.Text.Blank

set_option autoImplicit false

namespace FormulaTree.Decimal

/-- The most zeros that are written out before a literal takes an exponent instead. -/
def plainZeros : Nat := 21

def inWord (bits : Nat) (n : Int) : Bool :=
  -Int.pow 2 (bits - 1) ≤ n && n < Int.pow 2 (bits - 1)

def exponent? : List Char → Option Int
  | [] => some 0
  | _ :: digits => (Text.integer? digits).filter (inWord 128)

def splitSign : List Char → Bool × List Char
  | '-' :: rest => (true, rest)
  | '+' :: rest => (false, rest)
  | text => (false, text)

def isExponentMark (c : Char) : Bool :=
  c = 'e' || c = 'E'

def ofLiteral? (text : String) : Option Decimal := do
  let (number, power) := (Text.trim text.toList).span (!isExponentMark ·)
  let exponent ← exponent? power
  let (negative, digits) := splitSign number
  let (whole, point) := digits.span (· != '.')
  let fraction := point.drop 1
  let n ← Text.natural? (whole ++ fraction)
  let scale := fraction.length - exponent
  if inWord 64 scale then
    return ofParts (if negative then -n else n) (Int64.ofInt scale)
  else none

/-- The digits of the mantissa with a point or zeros in the right place, or with an exponent where
that would take more than `plainZeros` zeros. -/
def magnitude (digits : List Char) (scale : Int) : List Char :=
  if scale < -plainZeros ∨ digits.length + plainZeros < scale then
    digits ++ 'e' :: Text.writeInteger (-scale)
  else if scale ≤ 0 then digits ++ List.replicate scale.natAbs '0'
  else if scale < digits.length then
    digits.take (digits.length - scale.toNat) ++ '.' :: digits.drop (digits.length - scale.toNat)
  else '0' :: '.' :: List.replicate (scale.toNat - digits.length) '0' ++ digits

def write (d : Decimal) : String :=
  String.ofList ((if d.mantissa < 0 then ['-'] else [])
    ++ magnitude (Text.writeNatural d.mantissa.natAbs) d.scale.toInt)

end FormulaTree.Decimal
