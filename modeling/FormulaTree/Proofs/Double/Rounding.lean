import FormulaTree.Proofs.Double.Interval
import Mathlib.Tactic.Linarith

/-!
# Rounding to a double

An operation on doubles comes to a mantissa, an exponent and a word on how the exact result lies to
them; `roundWithAccuracy` makes a double of that. `Locates` is what the word says about the exact
result, and the shifts of the mantissa keep it true. So the double is the one that the exact result
rounds to (`Fine.rounds`), provided the mantissa is long enough to begin with and the double is not
too large.
-/

set_option autoImplicit false

namespace FormulaTree.Double

open Float.Model UnpackedFloat

section locates

variable {em : ExtendedMantissa} {q : Rat}

/-- The number has the mantissa as its whole part, and the two bits tell on which side of the middle
the rest lies, or whether it lies there or is nothing. -/
structure Locates (em : ExtendedMantissa) (q : Rat) : Prop where
  low : (em.mantissa : Rat) ≤ q
  high : q < em.mantissa + 1
  round : em.roundBit = true ↔ (em.mantissa : Rat) + 1 / 2 ≤ q
  sticky : em.stickyBit = true ↔ q ≠ em.mantissa ∧ q ≠ em.mantissa + 1 / 2

theorem Locates.inexact (h : Locates em q) :
    (em.roundBit || em.stickyBit) = true ↔ q ≠ em.mantissa := by
  rw [Bool.or_eq_true, h.round, h.sticky]
  constructor
  · rintro (middle | ⟨apart, -⟩)
    · intro same
      linarith
    · exact apart
  · intro apart
    by_cases middle : q = em.mantissa + 1 / 2
    · exact .inl middle.ge
    · exact .inr ⟨apart, middle⟩

/-- The last bit of the mantissa becomes the round bit, and what was inexact stays so. -/
theorem Locates.shiftRightOne (h : Locates em q) : Locates em.shiftRightOne (q / 2) := by
  have halves : (em.mantissa : Rat) = 2 * (em.mantissa / 2 : Nat) + (em.mantissa % 2 : Nat) := by
    exact_mod_cast (Nat.div_add_mod em.mantissa 2).symm
  have low := h.low
  have high := h.high
  have inexact := h.inexact
  rcases Nat.mod_two_eq_zero_or_one em.mantissa with even | odd
  · rw [even, Nat.cast_zero, add_zero] at halves
    rw [halves] at low high inexact
    refine ⟨?_, ?_, ?_, ?_⟩
    · simp only [ExtendedMantissa.shiftRightOne]
      linarith
    · simp only [ExtendedMantissa.shiftRightOne]
      linarith
    · simp only [ExtendedMantissa.shiftRightOne, even]
      constructor
      · intro odd
        cases odd
      · intro middle
        linarith
    · simp only [ExtendedMantissa.shiftRightOne, inexact]
      constructor
      · intro apart
        refine ⟨fun same => apart (by linarith), fun same => ?_⟩
        linarith
      · rintro ⟨apart, -⟩ same
        exact apart (by linarith)
  · rw [odd, Nat.cast_one] at halves
    rw [halves] at low high inexact
    refine ⟨?_, ?_, ?_, ?_⟩
    · simp only [ExtendedMantissa.shiftRightOne]
      linarith
    · simp only [ExtendedMantissa.shiftRightOne]
      linarith
    · simp only [ExtendedMantissa.shiftRightOne, odd]
      refine ⟨fun _ => ?_, fun _ => rfl⟩
      linarith
    · simp only [ExtendedMantissa.shiftRightOne, inexact]
      constructor
      · intro apart
        refine ⟨fun same => ?_, fun same => apart (by linarith)⟩
        linarith
      · rintro ⟨-, apart⟩ same
        exact apart (by linarith)

theorem Locates.shiftRight (h : Locates em q) (count : Nat) :
    Locates (em >>> count) (q / 2 ^ count) := by
  induction count with
  | zero =>
    rw [pow_zero, div_one]
    exact h
  | succ count ih =>
    rw [pow_succ, ← div_div]
    exact ih.shiftRightOne

theorem locates_exact (m : Nat) : Locates (.ofMantissaAndAccuracy m .exact) m := by
  refine ⟨le_rfl, lt_add_one _, ?_, ?_⟩
  · simp [ExtendedMantissa.ofMantissaAndAccuracy]
  · simp [ExtendedMantissa.ofMantissaAndAccuracy]

theorem locates_inexact {m : Nat} {side : Ordering} (low : (m : Rat) < q) (high : q < m + 1)
    (compares : side.Compares q (m + 1 / 2)) :
    Locates (.ofMantissaAndAccuracy m (.inexact side)) q := by
  cases side with
  | lt =>
    have less : q < m + 1 / 2 := compares
    exact ⟨low.le, high, ⟨fun up => (nomatch up), fun up => absurd less up.not_gt⟩,
      ⟨fun _ => ⟨low.ne', less.ne⟩, fun _ => rfl⟩⟩
  | eq =>
    have middle : q = m + 1 / 2 := compares
    exact ⟨low.le, high, ⟨fun _ => middle.ge, fun _ => rfl⟩,
      ⟨fun stuck => (nomatch stuck), fun apart => absurd middle apart.2⟩⟩
  | gt =>
    have more : (m : Rat) + 1 / 2 < q := compares
    exact ⟨low.le, high, ⟨fun _ => more.le, fun _ => rfl⟩,
      ⟨fun _ => ⟨low.ne', more.ne'⟩, fun _ => rfl⟩⟩

theorem locates_fraction (m : Nat) {num den : Nat} (below : num < den) :
    Locates (.ofMantissaAndAccuracy m (accuracyOfFraction num den)) (m + num / den : Rat) := by
  unfold accuracyOfFraction
  by_cases none : num = 0
  · rw [if_pos none, none, Nat.cast_zero, zero_div, add_zero]
    exact locates_exact m
  · have positive : (0 : Rat) < den := by exact_mod_cast Nat.zero_lt_of_lt below
    have rest : (0 : Rat) < num / den :=
      div_pos (by exact_mod_cast Nat.pos_of_ne_zero none) positive
    have rest_below : (num / den : Rat) < 1 := by
      rw [div_lt_one positive]
      exact_mod_cast below
    have twice : (num / den : Rat) * (2 * den) = (2 * num : Nat) := by
      push_cast
      field_simp
    rw [if_neg none]
    refine locates_inexact (by linarith) (by linarith) ?_
    rcases lt_trichotomy (2 * num) den with less | middle | more
    · rw [Nat.compare_eq_lt.2 less]
      have less : ((2 * num : Nat) : Rat) < den := by exact_mod_cast less
      rw [← twice] at less
      change (m + num / den : Rat) < m + 1 / 2
      nlinarith
    · rw [Nat.compare_eq_eq.2 middle]
      rw [middle] at twice
      change (m + num / den : Rat) = m + 1 / 2
      have : (num / den : Rat) = 1 / 2 := by
        field_simp at twice ⊢
        linarith
      rw [this]
    · rw [Nat.compare_eq_gt.2 more]
      have more : (den : Rat) < (2 * num : Nat) := by exact_mod_cast more
      rw [← twice] at more
      change (m : Rat) + 1 / 2 < m + num / den
      nlinarith

/-- Rounding takes the nearest whole number, the even one of two. -/
theorem Locates.rounded (h : Locates em q) :
    (em.roundedMantissa = em.mantissa ∧ q ≤ em.mantissa + 1 / 2 ∧
        (q = em.mantissa + 1 / 2 → em.mantissa % 2 = 0)) ∨
      em.roundedMantissa = em.mantissa + 1 ∧ em.mantissa + 1 / 2 ≤ q ∧
        (q = em.mantissa + 1 / 2 → em.mantissa % 2 = 1) := by
  obtain ⟨m, r, s⟩ := em
  obtain ⟨low, high, round, sticky⟩ := h
  simp only at low high round sticky
  cases r with
  | false =>
    have below : q < m + 1 / 2 := by simpa using round
    refine .inl ⟨?_, below.le, fun same => absurd same below.ne⟩
    cases s <;> rfl
  | true =>
    have above : (m : Rat) + 1 / 2 ≤ q := by simpa using round
    cases s with
    | false =>
      have middle : q = m + 1 / 2 := by
        by_contra apart
        have inexact : q ≠ m := by
          intro same
          linarith
        cases sticky.2 ⟨inexact, apart⟩
      rcases Nat.mod_two_eq_zero_or_one m with even | odd
      · refine .inl ⟨?_, middle.le, fun _ => even⟩
        change m + m % 2 = m
        rw [even, Nat.add_zero]
      · refine .inr ⟨?_, middle.ge, fun _ => odd⟩
        change m + m % 2 = m + 1
        rw [odd]
    | true =>
      have apart : q ≠ m + 1 / 2 := (sticky.1 rfl).2
      exact .inr ⟨rfl, above, fun same => absurd same apart⟩

end locates

section grid

/-- The doubles with a significand `m` in the unit `2 ^ (k - 1074)`, written in one way only: all
bits are used, or the unit is the least. -/
structure Canonical (k m : Nat) : Prop where
  small : m < 2 ^ 53
  full : 2 ^ 52 ≤ m ∨ k = 0

/-- The rank of such a double. One more than the last significand is the first of the next unit. -/
def gridRank (k m : Nat) : Nat :=
  k * 2 ^ 52 + m

variable {k m : Nat}

theorem gridRank_mod_two (k m : Nat) : gridRank k m % 2 = m % 2 := by
  unfold gridRank
  omega

theorem gridRank_succ (k m : Nat) : gridRank k (m + 1) = gridRank k m + 1 :=
  (Nat.add_assoc _ _ _).symm

theorem gridRank_carry (k : Nat) : gridRank k (2 ^ 53) = gridRank (k + 1) (2 ^ 52) := by
  unfold gridRank
  omega

theorem Canonical.fields (h : Canonical k m) :
    significandOf (gridRank k m / 2 ^ 52) (gridRank k m % 2 ^ 52) = m ∧
      max (gridRank k m / 2 ^ 52) 1 - 1 = k := by
  obtain ⟨small, full⟩ := h
  unfold gridRank significandOf
  split <;> omega

theorem Canonical.edge_succ (h : Canonical k m) :
    edge (gridRank k m + 1) = (4 * m + 2) * 2 ^ k := by
  rw [Double.edge_succ, upperEnd, h.fields.1, h.fields.2]

theorem Canonical.edge_le (h : Canonical k m) : edge (gridRank k m) ≤ 4 * m * 2 ^ k := by
  rw [edge, lowerEnd, h.fields.1, h.fields.2]
  exact Nat.mul_le_mul_right _ (Nat.sub_le _ _)

theorem Canonical.edge_lt (h : Canonical k m) (positive : 0 < m) :
    edge (gridRank k m) < 4 * m * 2 ^ k := by
  rw [edge, lowerEnd, h.fields.1, h.fields.2]
  exact Nat.mul_lt_mul_of_pos_right (by split <;> omega) (Nat.two_pow_pos _)

/-- The next significand, or the first one in twice the unit, lies below the edge above it. -/
theorem Canonical.lt_edge (h : Canonical k m) :
    4 * (m + 1) * 2 ^ k < edge (gridRank k (m + 1) + 1) := by
  have small := h.small
  have full := h.full
  by_cases last : m + 1 = 2 ^ 53
  · have next : Canonical (k + 1) (2 ^ 52) := ⟨by norm_num, .inl le_rfl⟩
    rw [last, gridRank_carry, next.edge_succ, pow_succ' 2 k, ← mul_assoc]
    exact Nat.mul_lt_mul_of_pos_right (by norm_num) (Nat.two_pow_pos _)
  · have next : Canonical k (m + 1) := ⟨by omega, by omega⟩
    rw [next.edge_succ]
    exact Nat.mul_lt_mul_of_pos_right (by omega) (Nat.two_pow_pos _)

theorem roundsTo_gridRank_iff {q : Rat} :
    RoundsTo (gridRank k m) (q * 2 ^ k / 2 ^ 1074) ↔
      if m % 2 = 0 then
        edge (gridRank k m) ≤ 4 * q * 2 ^ k ∧ 4 * q * 2 ^ k ≤ edge (gridRank k m + 1)
      else edge (gridRank k m) < 4 * q * 2 ^ k ∧ 4 * q * 2 ^ k < edge (gridRank k m + 1) := by
  have unit : (0 : Rat) < 2 ^ 1076 := pow_pos two_pos _
  have quarters : q * 2 ^ k / 2 ^ 1074 = 4 * q * 2 ^ k / 2 ^ 1076 := by
    rw [show (1076 : Nat) = 1074 + 2 from rfl, pow_add]
    field_simp
    norm_num
  rw [RoundsTo, quarters, gridRank_mod_two]
  simp only [div_le_div_iff_of_pos_right unit, div_lt_div_iff_of_pos_right unit]

variable {em : ExtendedMantissa} {q : Rat}

theorem Canonical.roundsTo_down (h : Canonical k m) (low : m ≤ q) (below : q ≤ m + 1 / 2)
    (tie : q = m + 1 / 2 → m % 2 = 0) : RoundsTo (gridRank k m) (q * 2 ^ k / 2 ^ 1074) := by
  have scale : (0 : Rat) < 2 ^ k := pow_pos two_pos _
  have up : (edge (gridRank k m + 1) : Rat) = (4 * m + 2) * 2 ^ k := by
    exact_mod_cast h.edge_succ
  rw [roundsTo_gridRank_iff, up]
  split
  · have down : (edge (gridRank k m) : Rat) ≤ 4 * m * 2 ^ k := by
      exact_mod_cast h.edge_le
    refine ⟨down.trans ?_, ?_⟩
    · gcongr
    · gcongr
      linarith
  · rename_i odd
    have down : (edge (gridRank k m) : Rat) < 4 * m * 2 ^ k := by
      exact_mod_cast h.edge_lt (by omega)
    have strict : q < m + 1 / 2 := lt_of_le_of_ne below fun same => odd (tie same)
    refine ⟨down.trans_le ?_, ?_⟩
    · gcongr
    · gcongr
      linarith

theorem Canonical.roundsTo_up (h : Canonical k m) (high : q < m + 1) (above : m + 1 / 2 ≤ q)
    (tie : q = m + 1 / 2 → m % 2 = 1) :
    RoundsTo (gridRank k (m + 1)) (q * 2 ^ k / 2 ^ 1074) := by
  have scale : (0 : Rat) < 2 ^ k := pow_pos two_pos _
  have begun : edge (gridRank k (m + 1)) = (4 * m + 2) * 2 ^ k := by
    rw [gridRank_succ, h.edge_succ]
  have down : (edge (gridRank k (m + 1)) : Rat) = (4 * m + 2) * 2 ^ k := by
    exact_mod_cast begun
  have up : (4 * (m + 1) * 2 ^ k : Rat) < edge (gridRank k (m + 1) + 1) := by
    exact_mod_cast h.lt_edge
  have inside : 4 * q * 2 ^ k < edge (gridRank k (m + 1) + 1) := by
    refine lt_trans ?_ up
    gcongr
  rw [roundsTo_gridRank_iff, down]
  split
  · refine ⟨?_, inside.le⟩
    gcongr
    linarith
  · rename_i odd
    have strict : m + 1 / 2 < q :=
      lt_of_le_of_ne above fun same => odd (by have := tie same.symm; omega)
    refine ⟨?_, inside⟩
    gcongr
    linarith

/-- The rounded mantissa gives the double that the number rounds to. -/
theorem Canonical.roundsTo (h : Canonical k em.mantissa) (located : Locates em q) :
    RoundsTo (gridRank k em.roundedMantissa) (q * 2 ^ k / 2 ^ 1074) := by
  rcases located.rounded with ⟨same, below, tie⟩ | ⟨next, above, tie⟩
  · rw [same]
    exact h.roundsTo_down located.low below tie
  · rw [next]
    exact h.roundsTo_up located.high above tie

end grid

section packed

variable {k m : Nat}

theorem rank_of_bits {x : Float} {sign : Sign} {exponent : BitVec 11} {fraction : BitVec 52}
    (h : bits x = packComponents .binary64 sign exponent fraction) :
    isNegative x = decide (sign.toBitVec = 1#1) ∧
      rank x = exponent.toNat * 2 ^ 52 + fraction.toNat := by
  obtain ⟨negative, top, bottom⟩ := fields_of_bits h
  exact ⟨negative, by rw [rank, top, bottom]⟩

def packed (f : UnpackedFloat) : Float :=
  .ofModel (Float.Model.pack f)

theorem fields_packed_zero (sign : Sign) :
    isNegative (packed (.zero sign)) = decide (sign.toBitVec = 1#1) ∧
      rank (packed (.zero sign)) = 0 := by
  have zero : bits (packed (.zero sign)) = packComponents .binary64 sign 0#11 0#52 := rfl
  exact rank_of_bits zero

theorem log2_add_one_eq_iff {m : Nat} (small : m < 2 ^ 53) (positive : 0 < m) :
    m.log2 + 1 = 53 ↔ 2 ^ 52 ≤ m := by
  rw [← Nat.le_log2 positive.ne']
  have := (Nat.log2_lt positive.ne').2 small
  omega

theorem bits_packed_finite (sign : Sign) (k : Nat) (positive : 0 < m) :
    bits (packed (.finite sign m (k - 1074) positive))
      = if 2 ^ 11 ≤ k + 1 + 1 then packedInfinity .binary64 sign
        else if m.log2 + 1 = 53 then
          packComponents .binary64 sign (BitVec.ofNat 11 (k + 1)) (BitVec.ofNat 52 m)
        else packComponents .binary64 sign 0#11 (BitVec.ofNat 52 m) := by
  have biased : ((k : Int) - 1074 + (1023 : Nat) + (52 : Nat)).toNat = k + 1 := by omega
  rw [← biased]
  rfl

theorem Canonical.fields_packed (h : Canonical k m) (sign : Sign) (positive : 0 < m)
    (fits : gridRank k m < 2047 * 2 ^ 52) :
    isNegative (packed (.finite sign m (k - 1074) positive)) = decide (sign.toBitVec = 1#1) ∧
      rank (packed (.finite sign m (k - 1074) positive)) = gridRank k m := by
  obtain ⟨small, full⟩ := h
  have shape := bits_packed_finite sign k positive
  unfold gridRank at fits ⊢
  rw [if_neg (by omega)] at shape
  by_cases normal : 2 ^ 52 ≤ m
  · rw [if_pos ((log2_add_one_eq_iff small positive).2 normal)] at shape
    obtain ⟨negative, place⟩ := rank_of_bits shape
    rw [BitVec.toNat_ofNat, BitVec.toNat_ofNat] at place
    exact ⟨negative, place.trans (by omega)⟩
  · rw [if_neg (mt (log2_add_one_eq_iff small positive).1 normal)] at shape
    obtain ⟨negative, place⟩ := rank_of_bits shape
    rw [BitVec.toNat_ofNat, BitVec.toNat_ofNat] at place
    exact ⟨negative, place.trans (by omega)⟩

end packed

section rounding

variable {m : Nat} {e : Int} {accuracy : Accuracy} {q : Rat}

theorem targetExponent_eq (m : Nat) (e : Int) :
    Format.binary64.targetExponent (totalExponent m e) = max (m.log2 + e - 52) (-1074) := by
  have unfolded : Format.binary64.targetExponent (totalExponent m e)
      = max ((m.log2 : Int) + 1 + e - 53) (-1074) := rfl
  rw [unfolded]
  congr 1
  omega

def places (m : Nat) (e : Int) : Nat :=
  (max (m.log2 + e - 52) (-1074) - e).toNat

theorem shiftToTargetExponent_eq (m : Nat) (e : Int) (accuracy : Accuracy) :
    shiftToTargetExponent .binary64 m e accuracy
      = (ExtendedMantissa.ofMantissaAndAccuracy m accuracy >>> places m e, e + places m e) := by
  unfold shiftToTargetExponent shiftToExponent places
  rw [targetExponent_eq]

theorem mantissa_ofMantissaAndAccuracy (m : Nat) (accuracy : Accuracy) :
    (ExtendedMantissa.ofMantissaAndAccuracy m accuracy).mantissa = m := by
  rcases accuracy with - | side
  · rfl
  · cases side <;> rfl

theorem mantissa_shiftRight (em : ExtendedMantissa) (count : Nat) :
    (em >>> count).mantissa = em.mantissa / 2 ^ count := by
  induction count with
  | zero => rw [pow_zero, Nat.div_one]; rfl
  | succ count ih =>
    rw [pow_succ, ← Nat.div_div_eq_div_mul, ← ih]
    rfl

/-- The unit of a mantissa is fine enough for a double: the mantissa has all the bits that a double
has, or its unit is no larger than the least unit of a double. -/
def Fine (m : Nat) (e : Int) : Prop :=
  2 ^ 52 ≤ m ∨ e ≤ -1074

theorem Fine.canonical (h : Fine m e) :
    ∃ k : Nat, e + places m e = k - 1074 ∧ Canonical k (m / 2 ^ places m e) := by
  have below : m < 2 ^ (m.log2 + 1) := Nat.lt_log2_self
  have fine : 52 ≤ m.log2 ∨ e ≤ -1074 := by
    rcases h with full | least
    · exact .inl ((Nat.le_log2 (by omega)).2 full)
    · exact .inr least
  refine ⟨(e + places m e + 1074).toNat, ?_, ?_, ?_⟩
  · unfold places
    omega
  · rw [Nat.div_lt_iff_lt_mul (Nat.two_pow_pos _), ← pow_add]
    refine below.trans_le (Nat.pow_le_pow_right two_pos ?_)
    unfold places
    omega
  · by_cases least : (m.log2 : Int) + e - 52 ≤ -1074
    · right
      unfold places
      omega
    · left
      have nonzero : m ≠ 0 := by
        rintro rfl
        simp at least fine
        omega
      have above : 2 ^ m.log2 ≤ m := Nat.log2_self_le nonzero
      rw [Nat.le_div_iff_mul_le (Nat.two_pow_pos _), ← pow_add]
      refine (Nat.pow_le_pow_right two_pos ?_).trans above
      unfold places
      omega

/-- A mantissa that is rounded already stays as it is. -/
theorem Canonical.places_eq_zero {k : Nat} (h : Canonical k m) : places m (k - 1074) = 0 := by
  have small : m.log2 < 53 := by
    by_cases zero : m = 0
    · simp [zero]
    · exact (Nat.log2_lt zero).2 h.small
  unfold places
  omega

theorem places_carry (k : Nat) : places (2 ^ 53) (k - 1074) = 1 := by
  have log : (2 ^ 53 : Nat).log2 = 53 := Nat.log2_two_pow
  unfold places
  rw [log]
  omega

/-- Rounding up may have made the mantissa one bit too long. -/
def settled (sign : Sign) (m : Nat) (e : Int) : UnpackedFloat :=
  if h : m / 2 ^ places m e = 0 then .zero sign
  else .finite sign (m / 2 ^ places m e) (e + places m e) (Nat.pos_of_ne_zero h)

theorem roundWithAccuracy_eq (sign : Sign) (m : Nat) (e : Int) (accuracy : Accuracy) :
    roundWithAccuracy .binary64 sign m e accuracy
      = settled sign
        (ExtendedMantissa.ofMantissaAndAccuracy m accuracy >>> places m e).roundedMantissa
        (e + places m e) := by
  unfold roundWithAccuracy settled
  simp only [shiftToTargetExponent_eq, mantissa_shiftRight, mantissa_ofMantissaAndAccuracy]

theorem Canonical.fields_settled {k : Nat} (h : Canonical k m) (sign : Sign)
    (fits : gridRank k m < 2047 * 2 ^ 52) :
    isNegative (packed (settled sign m (k - 1074))) = decide (sign.toBitVec = 1#1) ∧
      rank (packed (settled sign m (k - 1074))) = gridRank k m := by
  unfold settled
  simp only [h.places_eq_zero, pow_zero, Nat.div_one, Nat.cast_zero, add_zero]
  split
  · rename_i zero
    have least : k = 0 := by
      have := h.full
      omega
    rw [zero, least]
    exact fields_packed_zero sign
  · exact h.fields_packed sign _ fits

theorem fields_settled_carry {k : Nat} (sign : Sign) (fits : gridRank k (2 ^ 53) < 2047 * 2 ^ 52) :
    isNegative (packed (settled sign (2 ^ 53) (k - 1074))) = decide (sign.toBitVec = 1#1) ∧
      rank (packed (settled sign (2 ^ 53) (k - 1074))) = gridRank k (2 ^ 53) := by
  have next : Canonical (k + 1) (2 ^ 52) := ⟨by norm_num, .inl le_rfl⟩
  have half : (2 ^ 53 : Nat) / 2 ^ 1 = 2 ^ 52 := by norm_num
  have unit : (k : Int) - 1074 + (1 : Nat) = (k + 1 : Nat) - 1074 := by
    push_cast
    ring
  rw [gridRank_carry] at fits ⊢
  unfold settled
  simp only [places_carry, half, unit]
  exact next.fields_packed sign _ fits

/-- What rounding gives is the double that the number rounds to, unless that is too large. -/
theorem Fine.rounds (fine : Fine m e) (sign : Sign)
    (located : Locates (.ofMantissaAndAccuracy m accuracy) q) :
    ∃ r, RoundsTo r (q * 2 ^ e) ∧ (r < 2047 * 2 ^ 52 →
      isNegative (packed (roundWithAccuracy .binary64 sign m e accuracy))
          = decide (sign.toBitVec = 1#1) ∧
        rank (packed (roundWithAccuracy .binary64 sign m e accuracy)) = r) := by
  obtain ⟨k, exponent, canonical⟩ := fine.canonical
  rw [roundWithAccuracy_eq, exponent]
  generalize shifted : ExtendedMantissa.ofMantissaAndAccuracy m accuracy >>> places m e = em
  have mantissa : em.mantissa = m / 2 ^ places m e := by
    rw [← shifted, mantissa_shiftRight, mantissa_ofMantissaAndAccuracy]
  rw [← mantissa] at canonical
  have located' : Locates em (q / 2 ^ places m e) := shifted ▸ located.shiftRight _
  refine ⟨gridRank k em.roundedMantissa, ?_, fun fits => ?_⟩
  · have scaled : q * 2 ^ e = q / 2 ^ places m e * 2 ^ k / 2 ^ 1074 := by
      have two : (2 : Rat) ≠ 0 := two_ne_zero
      have unit : (2 : Rat) ^ e * 2 ^ places m e = 2 ^ k / 2 ^ 1074 := by
        rw [← zpow_natCast, ← zpow_add₀ two, exponent, zpow_sub₀ two]
        norm_cast
      rw [mul_div_assoc, ← unit]
      field_simp
    rw [scaled]
    exact canonical.roundsTo located'
  · have small := canonical.small
    have full := canonical.full
    by_cases carry : em.roundedMantissa = 2 ^ 53
    · rw [carry] at fits ⊢
      exact fields_settled_carry sign fits
    · have rounded : em.roundedMantissa = em.mantissa ∨ em.roundedMantissa = em.mantissa + 1 :=
        located'.rounded.imp And.left And.left
      exact Canonical.fields_settled ⟨by omega, by omega⟩ sign fits

end rounding

end FormulaTree.Double
