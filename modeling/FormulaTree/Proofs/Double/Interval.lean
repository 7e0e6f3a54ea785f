import FormulaTree.Proofs.Decimal.Quantity
import FormulaTree.Proofs.Double.Fields
import Mathlib.Order.Monotone.Basic

/-!
# Rounding intervals

The finite doubles without a sign are numbered by their fields (`rank`). The interval of a double
ends where that of the next one begins (`edge`), and an end that two intervals have in common belongs
to one of them only. So no decimal lies in two intervals (`rank_eq_of_covers`). The shortest digits
of a double lie in its interval (`covers_shortest`).
-/

set_option autoImplicit false

namespace FormulaTree.Double

open Decimal

/-- The number lies in the interval. -/
def Interval.Covers (i : Interval) (q : Rat) : Prop :=
  if i.closed then quantity i.low i.places ≤ q ∧ q ≤ quantity i.high i.places
  else quantity i.low i.places < q ∧ q < quantity i.high i.places

section ends

def significandOf (e f : Nat) : Nat :=
  if e = 0 then f else 2 ^ 52 + f

def lowerEnd (e f : Nat) : Nat :=
  (4 * significandOf e f - if f = 0 ∧ 1 < e then 1 else 2) * 2 ^ (max e 1 - 1)

def upperEnd (e f : Nat) : Nat :=
  (4 * significandOf e f + 2) * 2 ^ (max e 1 - 1)

theorem lowerEnd_fraction_succ (e f : Nat) : lowerEnd e (f + 1) = upperEnd e f := by
  have next : 4 * significandOf e (f + 1) - 2 = 4 * significandOf e f + 2 := by
    unfold significandOf
    split <;> omega
  rw [lowerEnd, upperEnd, if_neg (by simp), next]

/-- After the last fraction comes the first one of the next exponent. The unit gets twice as large
there, except above the smallest exponent. -/
theorem lowerEnd_exponent_succ (e : Nat) : lowerEnd (e + 1) 0 = upperEnd e (2 ^ 52 - 1) := by
  unfold lowerEnd upperEnd significandOf
  cases e with
  | zero => norm_num
  | succ e =>
    have unit : 2 ^ (max (e + 1 + 1) 1 - 1) = 2 * 2 ^ (max (e + 1) 1 - 1) := by
      rw [← pow_succ']
      congr 1
      omega
    rw [unit, ← mul_assoc]
    norm_num

theorem lowerEnd_lt_upperEnd (e f : Nat) : lowerEnd e f < upperEnd e f :=
  Nat.mul_lt_mul_of_pos_right (by split <;> omega) (Nat.two_pow_pos _)

end ends

section rank

/-- The place of a double among the doubles without a sign. -/
def rank (x : Float) : Nat :=
  exponentField x * 2 ^ 52 + fractionField x

/-- Where the interval of a double begins, by its rank. -/
def edge (rank : Nat) : Nat :=
  lowerEnd (rank / 2 ^ 52) (rank % 2 ^ 52)

theorem edge_succ (rank : Nat) : edge (rank + 1) = upperEnd (rank / 2 ^ 52) (rank % 2 ^ 52) := by
  unfold edge
  by_cases last : rank % 2 ^ 52 = 2 ^ 52 - 1
  · have exponent : (rank + 1) / 2 ^ 52 = rank / 2 ^ 52 + 1 := by omega
    have fraction : (rank + 1) % 2 ^ 52 = 0 := by omega
    rw [exponent, fraction, last, lowerEnd_exponent_succ]
  · have exponent : (rank + 1) / 2 ^ 52 = rank / 2 ^ 52 := by omega
    have fraction : (rank + 1) % 2 ^ 52 = rank % 2 ^ 52 + 1 := by omega
    rw [exponent, fraction, lowerEnd_fraction_succ]

theorem edge_strictMono : StrictMono edge := by
  refine strictMono_nat_of_lt_succ fun rank => ?_
  rw [edge_succ]
  exact lowerEnd_lt_upperEnd _ _

theorem fractionField_lt (x : Float) : fractionField x < 2 ^ 52 :=
  Nat.mod_lt _ (by decide)

theorem rank_div (x : Float) : rank x / 2 ^ 52 = exponentField x := by
  have small := fractionField_lt x
  unfold rank
  omega

theorem rank_mod (x : Float) : rank x % 2 ^ 52 = fractionField x := by
  have small := fractionField_lt x
  unfold rank
  omega

end rank

theorem unit_mul (raised : Nat) :
    (if 1076 ≤ raised then Nat.pow 2 (raised - 1076) else Nat.pow 5 (1076 - raised)) * 2 ^ 1076
      = 2 ^ raised * 10 ^ (1076 - raised) := by
  have ten (k : Nat) : 10 ^ k = 5 ^ k * 2 ^ k := (Nat.mul_pow 5 2 k)
  simp only [Nat.pow_eq, ten]
  split
  · rename_i large
    have none : 1076 - raised = 0 := by omega
    rw [none, pow_zero, pow_zero, mul_one, mul_one, ← pow_add]
    congr 1
    omega
  · have sum : 2 ^ 1076 = 2 ^ (1076 - raised) * 2 ^ raised := by
      rw [← pow_add]
      congr 1
      omega
    rw [sum]
    ring

theorem low_mul (x : Float) :
    (interval x).low * 2 ^ 1076 = edge (rank x) * 10 ^ (interval x).places := by
  rw [edge, rank_div, rank_mod]
  simp only [interval, mul_assoc, unit_mul]
  rw [← mul_assoc]
  rfl

theorem high_mul (x : Float) :
    (interval x).high * 2 ^ 1076 = edge (rank x + 1) * 10 ^ (interval x).places := by
  rw [edge_succ, rank_div, rank_mod]
  simp only [interval, mul_assoc, unit_mul]
  rw [← mul_assoc]
  rfl

section covers

theorem quantity_le_iff (scale : Int) (m n : Nat) :
    quantity m scale ≤ quantity n scale ↔ m ≤ n := by
  have power : (0 : Rat) < 10 ^ (-scale) := zpow_pos (by norm_num) _
  rw [quantity, quantity, mul_le_mul_iff_left₀ power]
  norm_cast

theorem quantity_lt_iff (scale : Int) (m n : Nat) :
    quantity m scale < quantity n scale ↔ m < n := by
  rw [← not_le, ← not_le, quantity_le_iff]

theorem Interval.holds_iff_covers (i : Interval) (n : Nat) :
    i.holds n = true ↔ i.Covers (quantity n i.places) := by
  unfold holds Covers
  split
  · simp [quantity_le_iff]
  · simp [quantity_lt_iff]

theorem quantity_of_mul {n edge places : Nat} (same : n * 2 ^ 1076 = edge * 10 ^ places) :
    quantity n places = edge / 2 ^ 1076 := by
  have ten : (10 : Rat) ^ places ≠ 0 := pow_ne_zero _ (by norm_num)
  have two : (2 : Rat) ^ 1076 ≠ 0 := pow_ne_zero _ two_ne_zero
  have cast := congrArg (Nat.cast : Nat → Rat) same
  rw [Nat.cast_mul, Nat.cast_mul, Nat.cast_pow, Nat.cast_pow] at cast
  rw [quantity, zpow_neg, zpow_natCast, ← div_eq_mul_inv, div_eq_div_iff ten two]
  exact cast

/-- The number rounds to the double of this rank: it lies between the edges of the double, and an
edge belongs to the double whose fraction is even. -/
def RoundsTo (rank : Nat) (q : Rat) : Prop :=
  if rank % 2 = 0 then (edge rank : Rat) / 2 ^ 1076 ≤ q ∧ q ≤ (edge (rank + 1) : Rat) / 2 ^ 1076
  else (edge rank : Rat) / 2 ^ 1076 < q ∧ q < (edge (rank + 1) : Rat) / 2 ^ 1076

theorem covers_interval_iff (x : Float) (q : Rat) :
    (interval x).Covers q ↔ RoundsTo (rank x) q := by
  have closed : (interval x).closed = true ↔ rank x % 2 = 0 := by
    simp only [interval, decide_eq_true_eq, significand, rank, Nat.pow_eq]
    split <;> omega
  rw [Interval.Covers, quantity_of_mul (low_mul x), quantity_of_mul (high_mul x), RoundsTo]
  simp only [closed]

/-- Two doubles have an edge in common only if one follows the other, and then just one of them has
it. -/
theorem not_lt_of_roundsTo {r r' : Nat} {q : Rat} (first : RoundsTo r q)
    (second : RoundsTo r' q) : ¬ r < r' := by
  intro before
  have unit : (0 : Rat) < 2 ^ 1076 := pow_pos two_pos _
  rw [RoundsTo] at first second
  have apart : (edge (r + 1) : Rat) / 2 ^ 1076 ≤ edge r' / 2 ^ 1076 := by
    rw [div_le_div_iff_of_pos_right unit]
    exact_mod_cast edge_strictMono.monotone before
  by_cases even : r % 2 = 0
  · by_cases even' : r' % 2 = 0
    · have gap : (edge (r + 1) : Rat) / 2 ^ 1076 < edge r' / 2 ^ 1076 := by
        rw [div_lt_div_iff_of_pos_right unit]
        exact_mod_cast edge_strictMono (show r + 1 < r' by omega)
      rw [if_pos even] at first
      rw [if_pos even'] at second
      exact absurd (first.2.trans_lt (gap.trans_le second.1)) (lt_irrefl q)
    · rw [if_pos even] at first
      rw [if_neg even'] at second
      exact absurd (first.2.trans_lt (apart.trans_lt second.1)) (lt_irrefl q)
  · have begun : (edge r' : Rat) / 2 ^ 1076 ≤ q := by
      split at second
      · exact second.1
      · exact second.1.le
    rw [if_neg even] at first
    exact absurd (first.2.trans_le (apart.trans begun)) (lt_irrefl q)

theorem eq_of_roundsTo {r r' : Nat} {q : Rat} (first : RoundsTo r q) (second : RoundsTo r' q) :
    r = r' :=
  le_antisymm (not_lt.1 (not_lt_of_roundsTo second first))
    (not_lt.1 (not_lt_of_roundsTo first second))

/-- No number lies in the intervals of two doubles. -/
theorem rank_eq_of_covers {x y : Float} {q : Rat} (first : (interval x).Covers q)
    (second : (interval y).Covers q) : rank x = rank y :=
  eq_of_roundsTo ((covers_interval_iff x q).1 first) ((covers_interval_iff y q).1 second)

end covers

section shortest

variable {i : Interval} (tie : Tie)

theorem Interval.holds_of_nearest? {step n : Nat} (found : i.nearest? tie step = some n) :
    i.holds (n * step) = true := by
  simp only [nearest?] at found
  generalize below : i.holds (i.value / step * step) = b at found
  generalize above : i.holds ((i.value / step + 1) * step) = a at found
  cases b with
  | false =>
    cases a with
    | false => cases found
    | true =>
      cases found
      exact above
  | true =>
    cases a with
    | false =>
      cases found
      exact below
    | true =>
      -- Whichever of the two is taken, both are inside.
      have one_of : n = i.value / step ∨ n = i.value / step + 1 := by grind
      rcases one_of with rfl | rfl
      · exact below
      · exact above

/-- The search stops inside the interval, at the latest at the value itself. -/
theorem Interval.covers_shortest (inside : i.holds i.value = true) (k : Nat) :
    i.Covers (quantity (i.shortest tie k).significand (-(i.shortest tie k).exponent)) := by
  induction k with
  | zero =>
    rw [shortest, neg_neg]
    exact (holds_iff_covers i i.value).1 inside
  | succ k ih =>
    rw [shortest]
    split
    · rename_i n found
      have held := (holds_iff_covers i _).1 (holds_of_nearest? tie found)
      rw [Nat.pow_eq, Nat.cast_mul, Nat.cast_pow, Nat.cast_ofNat, quantity_mul_pow] at held
      rwa [neg_sub]
    · exact ih

/-- A double lies in its own interval; zero is at the end of its interval. -/
theorem holds_value (x : Float) : (interval x).holds (interval x).value = true := by
  have unit : 0 < if 1076 ≤ raisedExponent x then Nat.pow 2 (raisedExponent x - 1076)
      else Nat.pow 5 (1076 - raisedExponent x) := by
    split
    · exact Nat.pow_pos (by decide)
    · exact Nat.pow_pos (by decide)
  have low : (interval x).low ≤ (interval x).value :=
    Nat.mul_le_mul_right _ (Nat.sub_le _ _)
  have high : (interval x).value < (interval x).high :=
    Nat.mul_lt_mul_of_pos_right (by omega) unit
  unfold Interval.holds
  split
  · simp [low, high.le]
  · rename_i odd
    have nonzero : significand x ≠ 0 := by
      simp only [interval, decide_eq_true_eq] at odd
      omega
    have strict : (interval x).low < (interval x).value :=
      Nat.mul_lt_mul_of_pos_right (by split <;> omega) unit
    simp [strict, high]

theorem covers_value (x : Float) :
    (interval x).Covers (quantity (interval x).value (interval x).places) :=
  (Interval.holds_iff_covers _ _).1 (holds_value x)

/-- The shortest digits of a double are a number in its interval. -/
theorem covers_shortest (x : Float) :
    (interval x).Covers (quantity (shortest tie x).significand (-(shortest tie x).exponent)) :=
  Interval.covers_shortest tie (holds_value x) _

end shortest

end FormulaTree.Double
