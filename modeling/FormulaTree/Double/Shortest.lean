import FormulaTree.Double.Reading

/-!
# The fewest digits that read back

A finite double stands for the interval of reals that round to it. Among the decimals in that
interval the shortest is taken, of several that short the nearest to the double. All quantities are
natural numbers in units of one power of ten, so every comparison is exact.
-/

set_option autoImplicit false

namespace FormulaTree.Double

inductive Tie where
  | up
  | even
deriving DecidableEq, Repr

def isNegative (x : Float) : Bool :=
  Nat.pow 2 63 ≤ x.toBits.toNat

def exponentField (x : Float) : Nat :=
  x.toBits.toNat / Nat.pow 2 52 % Nat.pow 2 11

def fractionField (x : Float) : Nat :=
  x.toBits.toNat % Nat.pow 2 52

/-- The natural `m` of a finite double `± m * 2 ^ q`. -/
def significand (x : Float) : Nat :=
  if exponentField x = 0 then fractionField x else Nat.pow 2 52 + fractionField x

/-- The exponent of a quarter of `2 ^ q`, where `q` belongs to the finite double `± m * 2 ^ q`,
raised by 1076 so that it is natural. -/
def raisedExponent (x : Float) : Nat :=
  max (exponentField x) 1 - 1

/-- The reals that round to a double, in units of `10 ^ (- places)`. Its ends belong to it when
`closed` holds. -/
structure Interval where
  low : Nat
  value : Nat
  high : Nat
  places : Nat
  closed : Bool
deriving Repr

/-- The interval of the magnitude of a finite double. In quarters of its unit the double is `4 * m`
and the ends lie two quarters away; below a power of two the next double is only half as far. -/
def interval (x : Float) : Interval :=
  let m := significand x
  let below := if fractionField x = 0 ∧ 1 < exponentField x then 1 else 2
  let raised := raisedExponent x
  let unit := if 1076 ≤ raised then Nat.pow 2 (raised - 1076) else Nat.pow 5 (1076 - raised)
  { low := (4 * m - below) * unit
    value := 4 * m * unit
    high := (4 * m + 2) * unit
    places := 1076 - raised
    closed := m % 2 = 0 }

def Interval.holds (i : Interval) (n : Nat) : Bool :=
  if i.closed then i.low ≤ n && n ≤ i.high else i.low < n && n < i.high

def Interval.nearest? (tie : Tie) (i : Interval) (step : Nat) : Option Nat :=
  let below := i.value / step
  let above := below + 1
  match i.holds (below * step), i.holds (above * step) with
  | false, false => none
  | true, false => some below
  | false, true => some above
  | true, true =>
    let down := i.value - below * step
    let up := above * step - i.value
    if down < up then some below
    else if up < down then some above
    else match tie with
      | .up => some above
      | .even => if below % 2 = 0 then some below else some above

structure Digits where
  significand : Nat
  exponent : Int
deriving Repr, DecidableEq

/-- Tries the grids of step `10 ^ k`, `10 ^ (k - 1)`, … and ends at step one, where the value
itself is a grid point. -/
def Interval.shortest (tie : Tie) (i : Interval) : Nat → Digits
  | 0 => ⟨i.value, -i.places⟩
  | k + 1 =>
    match i.nearest? tie (Nat.pow 10 (k + 1)) with
    | some n => ⟨n, (k + 1 : Nat) - (i.places : Int)⟩
    | none => i.shortest tie k

/-- The shortest decimal that reads back as the magnitude of a finite double other than zero. -/
def shortest (tie : Tie) (x : Float) : Digits :=
  let i := interval x
  i.shortest tie (decimalLength i.value)

end FormulaTree.Double
