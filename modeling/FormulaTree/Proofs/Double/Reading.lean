import FormulaTree.Proofs.Double.Rounding
import FormulaTree.Proofs.Text.Numeral

set_option autoImplicit false

namespace FormulaTree.Double

open Float.Model UnpackedFloat Decimal

/-- The double has no sign and is the one that the number rounds to, unless that is too large. -/
def Rounded (x : Float) (q : Rat) : Prop :=
  ∃ r, RoundsTo r q ∧ (r < 2047 * 2 ^ 52 → isNegative x = false ∧ rank x = r)

section operations

variable {m m' : Nat} (e e' : Int)

theorem rounded_mul (positive : 0 < m) (positive' : 0 < m') (long : 2 ^ 52 ≤ m * m') :
    Rounded (packed (UnpackedFloat.mul .binary64 (.finite .positive m e positive)
      (.finite .positive m' e' positive'))) (m * 2 ^ e * (m' * 2 ^ e')) := by
  have fine : Fine (m * m') (e + e') := .inl long
  obtain ⟨r, rounds, fields⟩ := fine.rounds .positive (locates_exact (m * m'))
  have two : (2 : Rat) ≠ 0 := two_ne_zero
  have product : (m * 2 ^ e * (m' * 2 ^ e') : Rat) = (m * m' : Nat) * 2 ^ (e + e') := by
    rw [zpow_add₀ two]
    push_cast
    ring
  rw [product]
  exact ⟨r, rounds, fields⟩

def quotientExponent (m : Nat) (e : Int) (m' : Nat) (e' : Int) : Int :=
  min (e - e') (max (m.log2 + e - (m'.log2 + e') - 53) (-1074))

def dividend (m : Nat) (e : Int) (m' : Nat) (e' : Int) : Nat :=
  m * 2 ^ (e - e' - quotientExponent m e m' e').toNat

theorem divCore_eq (m : Nat) (e : Int) (m' : Nat) (e' : Int) :
    divCore .binary64 m e m' e' =
      (dividend m e m' e' / m', quotientExponent m e m' e',
        accuracyOfFraction (dividend m e m' e' % m') m') := by
  have total : Format.binary64.targetExponent (totalExponent m e - totalExponent m' e')
      = max ((m.log2 + 1 + e) - (m'.log2 + 1 + e') - 53 : Int) (-1074) := rfl
  have target : min (e - e') (Format.binary64.targetExponent
      (totalExponent m e - totalExponent m' e')) = quotientExponent m e m' e' := by
    rw [total, quotientExponent]
    omega
  unfold divCore dividend
  simp only [target, Nat.shiftLeft_eq]

theorem dividend_eq (m : Nat) (e : Int) (m' : Nat) (e' : Int) :
    (dividend m e m' e' : Rat) * 2 ^ quotientExponent m e m' e' = m * 2 ^ e / 2 ^ e' := by
  have two : (2 : Rat) ≠ 0 := two_ne_zero
  have places : ((e - e' - quotientExponent m e m' e').toNat : Int)
      = e - e' - quotientExponent m e m' e' := by
    unfold quotientExponent
    omega
  rw [dividend, Nat.cast_mul, Nat.cast_pow, Nat.cast_ofNat, ← zpow_natCast, places, mul_assoc,
    ← zpow_add₀ two, sub_add_cancel, zpow_sub₀ two, mul_div_assoc]

theorem fine_quotient (positive : 0 < m) (positive' : 0 < m') :
    Fine (dividend m e m' e' / m') (quotientExponent m e m' e') := by
  by_cases least : (m.log2 : Int) + e - (m'.log2 + e') - 53 ≤ -1074
  · right
    unfold quotientExponent
    omega
  · left
    have above : 2 ^ m.log2 ≤ m := Nat.log2_self_le positive.ne'
    have below : m' < 2 ^ (m'.log2 + 1) := Nat.lt_log2_self
    have enough : 52 + (m'.log2 + 1) ≤ m.log2 + (e - e' - quotientExponent m e m' e').toNat := by
      unfold quotientExponent
      omega
    rw [Nat.le_div_iff_mul_le positive']
    calc 2 ^ 52 * m' ≤ 2 ^ 52 * 2 ^ (m'.log2 + 1) := Nat.mul_le_mul_left _ below.le
      _ = 2 ^ (52 + (m'.log2 + 1)) := (pow_add _ _ _).symm
      _ ≤ 2 ^ (m.log2 + (e - e' - quotientExponent m e m' e').toNat) :=
        Nat.pow_le_pow_right two_pos enough
      _ = 2 ^ m.log2 * 2 ^ (e - e' - quotientExponent m e m' e').toNat := pow_add _ _ _
      _ ≤ dividend m e m' e' := Nat.mul_le_mul_right _ above

theorem rounded_div (positive : 0 < m) (positive' : 0 < m') :
    Rounded (packed (UnpackedFloat.div .binary64 (.finite .positive m e positive)
      (.finite .positive m' e' positive'))) (m * 2 ^ e / (m' * 2 ^ e')) := by
  have nonzero : (m' : Rat) ≠ 0 := by exact_mod_cast positive'.ne'
  have located := locates_fraction (dividend m e m' e' / m')
    (Nat.mod_lt (dividend m e m' e') positive')
  obtain ⟨r, rounds, fields⟩ := (fine_quotient e e' positive positive').rounds .positive located
  have parts : (m' * (dividend m e m' e' / m' : Nat) + (dividend m e m' e' % m' : Nat) : Rat)
      = dividend m e m' e' := by
    exact_mod_cast Nat.div_add_mod (dividend m e m' e') m'
  have quotient : (m * 2 ^ e / (m' * 2 ^ e') : Rat)
      = ((dividend m e m' e' / m' : Nat) + (dividend m e m' e' % m' : Nat) / m')
        * 2 ^ quotientExponent m e m' e' := by
    rw [mul_comm (m' : Rat), ← div_div, ← dividend_eq, ← parts]
    field_simp
  rw [quotient]
  refine ⟨r, rounds, ?_⟩
  rw [UnpackedFloat.div]
  simp only [divCore_eq]
  exact fields

end operations

theorem quantity_natAbs {e : Int} (s : Nat) (up : 0 ≤ e) : quantity s (-e) = s * 10 ^ e.toNat := by
  obtain ⟨n, rfl⟩ := Int.eq_ofNat_of_zero_le up
  rw [quantity, neg_neg, Int.toNat_natCast]
  norm_cast

theorem quantity_neg {e : Int} (s : Nat) (down : e < 0) :
    quantity s (-e) = s / (10 ^ (-e).toNat : Nat) := by
  obtain ⟨n, same⟩ := Int.eq_ofNat_of_zero_le (by omega : 0 ≤ -e)
  rw [quantity, same, Int.toNat_natCast, zpow_neg, div_eq_mul_inv]
  norm_cast

theorem shiftLeft_mul_zpow (s places : Nat) :
    ((s <<< places : Nat) : Rat) * 2 ^ (-(places : Int)) = s := by
  rw [Nat.shiftLeft_eq, Nat.cast_mul, Nat.cast_pow, Nat.cast_ofNat, ← zpow_natCast, mul_assoc,
    ← zpow_add₀ two_ne_zero, add_neg_cancel, zpow_zero, mul_one]

theorem rounded_mul_power {s : Nat} (positive : 0 < s) {power : Nat} (positive' : 0 < power)
    (shifted : 0 < s <<< Format.binary64.mantissaBits) :
    Rounded (packed (UnpackedFloat.mul .binary64
      (.finite .positive (s <<< Format.binary64.mantissaBits) (-Format.binary64.mantissaBits)
        shifted)
      (.finite .positive power 0 positive'))) (s * power) := by
  have long : 2 ^ 52 ≤ s <<< Format.binary64.mantissaBits * power := by
    have bits : Format.binary64.mantissaBits = 53 := rfl
    rw [Nat.shiftLeft_eq, bits]
    nlinarith
  have rounded := rounded_mul (-Format.binary64.mantissaBits) 0 shifted positive' long
  rwa [shiftLeft_mul_zpow, zpow_zero, mul_one] at rounded

theorem rounded_ofScientific_exact {s : Nat} {e : Int} (positive : 0 < s) (high : e ≤ 2 ^ 11)
    (low : -(2 ^ 11 + (s.log2 : Int)) ≤ e) :
    Rounded (packed (UnpackedFloat.ofScientific .binary64 s e)) (quantity s (-e)) := by
  have range : (2 : Int) ^ Format.binary64.exponentBits = 2 ^ 11 := rfl
  unfold UnpackedFloat.ofScientific
  rw [dif_neg positive.ne', range, if_neg (by omega), if_neg (by omega)]
  by_cases up : 0 ≤ e
  · have rounded := rounded_mul_power positive (Nat.pow_pos (by decide) : 0 < 10 ^ e.toNat)
    rw [if_pos up, quantity_natAbs s up]
    rw [Nat.cast_pow, Nat.cast_ofNat] at rounded
    exact rounded _
  · rw [if_neg up, quantity_neg s (by omega)]
    have rounded := rounded_div 0 0 positive
      (Nat.pow_pos (by decide) : 0 < 10 ^ (-e).toNat)
    rw [zpow_zero, mul_one, mul_one] at rounded
    exact rounded

section normal

structure Normal (x : Float) (q : Rat) : Prop where
  sign : isNegative x = false
  low : 0 < exponentField x
  high : exponentField x < 2047
  value : ((2 ^ 52 + fractionField x : Nat) : Rat) * 2 ^ ((exponentField x : Int) - 1075) = q

variable {x y : Float} {q q' : Rat}

theorem Normal.unpack (h : Normal x q) :
    ∃ positive, x.toModel.unpack
      = .finite .positive (2 ^ 52 + fractionField x) (exponentField x - 1075) positive := by
  have unfolded : x.toModel.unpack = UnpackedFloat.unpack .binary64 (bits x) := rfl
  have sign := h.sign
  have low := h.low
  have high := h.high
  rw [isNegative_eq, decide_eq_false_iff_not] at sign
  rw [exponentField_eq] at low high
  have top : unpackExponent (bits x) ≠ -1#_ := by
    intro top
    rw [top] at high
    revert high
    decide
  have bottom : unpackExponent (bits x) ≠ 0#_ := by
    intro bottom
    rw [bottom] at low
    exact absurd low (by decide)
  have mantissa : (1#1 ++ unpackMantissa (bits x)).toNat = 2 ^ 52 + fractionField x := by
    rw [fractionField_eq, BitVec.toNat_append, ← Nat.shiftLeft_add_eq_or_of_lt (BitVec.isLt _)]
    rfl
  have positive : Sign.ofBitVec (unpackSign (bits x)) = .positive := by
    have zero : unpackSign (bits x) = 0#1 := by
      have small := (unpackSign (bits x)).isLt
      rw [← BitVec.toNat_inj] at sign ⊢
      simp at sign ⊢
      omega
    rw [zero]
    rfl
  refine ⟨by positivity, ?_⟩
  rw [unfolded, UnpackedFloat.unpack]
  simp only [top, bottom, if_false, mantissa, positive]
  rw [exponentField_eq]
  rfl

theorem Normal.rounded_mul (h : Normal x q) (h' : Normal y q') :
    Rounded (x * y) (q * q') := by
  obtain ⟨positive, unpacked⟩ := h.unpack
  obtain ⟨positive', unpacked'⟩ := h'.unpack
  have product : x * y = packed (UnpackedFloat.mul .binary64 x.toModel.unpack y.toModel.unpack) :=
    rfl
  rw [product, unpacked, unpacked', ← h.value, ← h'.value]
  refine Double.rounded_mul _ _ positive positive' ?_
  nlinarith

theorem Normal.rounded_div (h : Normal x q) (h' : Normal y q') :
    Rounded (x / y) (q / q') := by
  obtain ⟨positive, unpacked⟩ := h.unpack
  obtain ⟨positive', unpacked'⟩ := h'.unpack
  have quotient : x / y = packed (UnpackedFloat.div .binary64 x.toModel.unpack y.toModel.unpack) :=
    rfl
  rw [quotient, unpacked, unpacked', ← h.value, ← h'.value]
  exact Double.rounded_div _ _ positive positive'

theorem fields_powers : ∀ e : Fin Float.exactlyRepresentablePowersOfTen.size,
    isNegative Float.exactlyRepresentablePowersOfTen[e] = false ∧
      0 < exponentField Float.exactlyRepresentablePowersOfTen[e] ∧
      exponentField Float.exactlyRepresentablePowersOfTen[e] < 2047 ∧
      (2 ^ 52 + fractionField Float.exactlyRepresentablePowersOfTen[e])
          * 2 ^ exponentField Float.exactlyRepresentablePowersOfTen[e]
        = 10 ^ e.val * 2 ^ 1075 := by
  decide +kernel

theorem normal_power {e : Nat} (small : e < Float.exactlyRepresentablePowersOfTen.size) :
    Normal Float.exactlyRepresentablePowersOfTen[e] (10 ^ e) := by
  obtain ⟨sign, low, high, value⟩ := fields_powers ⟨e, small⟩
  refine ⟨sign, low, high, ?_⟩
  have two : (2 : Rat) ≠ 0 := two_ne_zero
  have value := congrArg (Nat.cast : Nat → Rat) value
  rw [Nat.cast_mul, Nat.cast_mul, Nat.cast_pow, Nat.cast_pow, Nat.cast_pow] at value
  rw [zpow_sub₀ two, ← mul_div_assoc, div_eq_iff (zpow_ne_zero _ two), zpow_natCast]
  exact value

theorem canonical_ofNat {n : Nat} (positive : 0 < n) (small : n < 2 ^ 53) :
    Canonical (n.log2 + 1022) (n * 2 ^ (52 - n.log2)) ∧ 2 ^ 52 ≤ n * 2 ^ (52 - n.log2) := by
  have above : 2 ^ n.log2 ≤ n := Nat.log2_self_le positive.ne'
  have below : n < 2 ^ (n.log2 + 1) := Nat.lt_log2_self
  have short : n.log2 < 53 := (Nat.log2_lt positive.ne').2 small
  have full : 2 ^ 52 ≤ n * 2 ^ (52 - n.log2) := by
    calc 2 ^ 52 = 2 ^ n.log2 * 2 ^ (52 - n.log2) := by
          rw [← pow_add]
          congr 1
          omega
      _ ≤ n * 2 ^ (52 - n.log2) := Nat.mul_le_mul_right _ above
  refine ⟨⟨?_, .inl full⟩, full⟩
  calc n * 2 ^ (52 - n.log2) < 2 ^ (n.log2 + 1) * 2 ^ (52 - n.log2) :=
        Nat.mul_lt_mul_of_pos_right below (Nat.two_pow_pos _)
    _ = 2 ^ 53 := by
        rw [← pow_add]
        congr 1
        omega

theorem toFloat_eq {n : Nat} (positive : 0 < n) (small : n < 2 ^ 53) :
    n.toUInt64.toFloat
      = packed (settled .positive (n * 2 ^ (52 - n.log2)) ((n.log2 + 1022 : Nat) - 1074)) := by
  have unfolded : n.toUInt64.toFloat
      = packed (UnpackedFloat.normalize .binary64 (n.toUInt64.toNat : Int) 0 .positive) := rfl
  have word : n.toUInt64.toNat = n := Nat.mod_eq_of_lt (by omega)
  have more : compare (n : Int) 0 = .gt := Int.compare_eq_gt.2 (by omega)
  have short : n.log2 < 53 := (Nat.log2_lt positive.ne').2 small
  have canonical := (canonical_ofNat positive small).1
  have places_eq : (0 - max ((n.log2 : Int) + 0 - 52) (-1074)).toNat = 52 - n.log2 := by omega
  have exponent : (0 : Int) - (52 - n.log2 : Nat) = (n.log2 + 1022 : Nat) - 1074 := by omega
  rw [unfolded, word, UnpackedFloat.normalize, more]
  unfold UnpackedFloat.round decreaseExponent
  simp only [Int.toNat_natCast, targetExponent_eq, places_eq, exponent]
  rw [roundWithAccuracy_eq, Nat.shiftLeft_eq, canonical.places_eq_zero, Nat.cast_zero, add_zero]
  rfl

theorem normal_ofNat {n : Nat} (positive : 0 < n) (small : n < 2 ^ 53) :
    Normal n.toUInt64.toFloat n := by
  have short : n.log2 < 53 := (Nat.log2_lt positive.ne').2 small
  obtain ⟨canonical, full⟩ := canonical_ofNat positive small
  have below := canonical.small
  have fits : gridRank (n.log2 + 1022) (n * 2 ^ (52 - n.log2)) < 2047 * 2 ^ 52 := by
    unfold gridRank
    omega
  obtain ⟨sign, place⟩ := canonical.fields_settled .positive fits
  rw [← toFloat_eq positive small] at sign place
  have exponent : exponentField n.toUInt64.toFloat = n.log2 + 1023 := by
    rw [← rank_div, place]
    unfold gridRank
    omega
  have fraction : 2 ^ 52 + fractionField n.toUInt64.toFloat = n * 2 ^ (52 - n.log2) := by
    rw [← rank_mod, place]
    unfold gridRank
    omega
  refine ⟨sign, by omega, by omega, ?_⟩
  rw [exponent, fraction]
  have two : (2 : Rat) ≠ 0 := two_ne_zero
  have unit : ((n.log2 + 1023 : Nat) : Int) - 1075 = -(52 - n.log2 : Nat) := by omega
  rw [unit, Nat.cast_mul, Nat.cast_pow, Nat.cast_ofNat, ← zpow_natCast, mul_assoc,
    ← zpow_add₀ two, add_neg_cancel, zpow_zero, mul_one]

end normal

/-- Small numbers are multiplied or divided by a power of ten that is a double itself. -/
theorem rounded_ofScientific {s : Nat} {e : Int} (positive : 0 < s) (high : e ≤ 2 ^ 11)
    (low : -(2 ^ 11 + (s.log2 : Int)) ≤ e) :
    Rounded (Float.ofScientific s (decide (e < 0)) e.natAbs) (quantity s (-e)) := by
  unfold Float.ofScientific
  split
  · rename_i small
    have natural := normal_ofNat positive small.1
    have power := normal_power (e := e.natAbs) (by
      have : Float.exactlyRepresentablePowersOfTen.size = 23 := rfl
      omega)
    by_cases down : e < 0
    · have same : e.natAbs = (-e).toNat := by omega
      rw [if_pos (decide_eq_true down), quantity_neg s down, ← same]
      have rounded := natural.rounded_div power
      push_cast
      exact rounded
    · have same : e.natAbs = e.toNat := by omega
      rw [if_neg (by simpa using down), quantity_natAbs s (by omega), ← same]
      exact natural.rounded_mul power
  · have exponent : (if decide (e < 0) = true then Int.negOfNat e.natAbs else Int.ofNat e.natAbs)
        = e := by
      split
      · rename_i down
        have down := of_decide_eq_true down
        rw [Int.negOfNat_eq]
        change -(e.natAbs : Int) = e
        omega
      · rename_i up
        have up := of_decide_eq_false (Bool.eq_false_of_not_eq_true up)
        exact Int.natAbs_of_nonneg (Int.not_lt.1 up)
    simp only [exponent]
    exact rounded_ofScientific_exact positive high low

section nearest

variable {x : Float} {s : Nat} {e : Int}

theorem isFinite_iff_rank : x.isFinite = true ↔ rank x < 2047 * 2 ^ 52 := by
  have word : exponentField x < 2 ^ 11 := Nat.mod_lt _ (by decide)
  have fraction := fractionField_lt x
  have top : unpackExponent (bits x) = -1#_ ↔ exponentField x = 2047 := by
    rw [exponentField_eq, ← BitVec.toNat_inj]
    rfl
  rw [isFinite_iff, ne_eq, top, rank]
  omega

theorem eq_of_rank {x y : Float} (sign : isNegative x = isNegative y) (place : rank x = rank y) :
    x = y :=
  eq_of_fields sign (by rw [← rank_div, place, rank_div]) (by rw [← rank_mod, place, rank_mod])

theorem withSign_eq {x y : Float} (finite : y.isFinite = true) (sign : isNegative y = false)
    (place : rank y = rank x) : withSign (isNegative x) y = x := by
  unfold withSign
  obtain ⟨turned, exponent, fraction⟩ := fields_neg finite
  cases negative : isNegative x with
  | false => exact eq_of_rank (sign.trans negative.symm) place
  | true =>
    refine eq_of_rank ?_ ?_
    · rw [if_pos rfl, turned, sign, negative]
      rfl
    · rw [if_pos rfl, ← place, rank, rank, exponent, fraction]

theorem quantity_lt (s : Nat) (e : Int) : quantity s (-e) < 10 ^ (e + decimalLength s) := by
  have digits : s < 10 ^ decimalLength s :=
    (Text.length_writeNatural_le_iff (Text.length_writeNatural_pos s)).1 le_rfl
  have digits : (s : Rat) < 10 ^ decimalLength s := by exact_mod_cast digits
  have power : (0 : Rat) < 10 ^ e := zpow_pos (by norm_num) e
  rw [quantity, neg_neg, zpow_add₀ (by norm_num), zpow_natCast, mul_comm]
  exact mul_lt_mul_of_pos_left digits power

theorem le_quantity (positive : 0 < s) (e : Int) :
    10 ^ (e + decimalLength s - 1) ≤ quantity s (-e) := by
  have some_digit : 0 < decimalLength s := Text.length_writeNatural_pos s
  have digits : 10 ^ (decimalLength s - 1) ≤ s := by
    by_cases one : decimalLength s = 1
    · rw [one]
      exact positive
    · refine Nat.le_of_not_lt fun less => ?_
      have shorter := (Text.length_writeNatural_le_iff (by omega)).2 less
      unfold decimalLength at shorter some_digit
      omega
  have digits : ((10 ^ (decimalLength s - 1) : Nat) : Rat) ≤ s := by exact_mod_cast digits
  have power : (0 : Rat) < 10 ^ e := zpow_pos (by norm_num) e
  have exponent : e + decimalLength s - 1 = e + (decimalLength s - 1 : Nat) := by omega
  rw [quantity, neg_neg, exponent, zpow_add₀ (by norm_num), zpow_natCast, mul_comm]
  push_cast at digits
  exact mul_le_mul_of_nonneg_right digits power.le

theorem roundsTo_zero {q : Rat} (low : 0 ≤ q) (high : q < 10 ^ (-330 : Int)) : RoundsTo 0 q := by
  have first : edge 0 = 0 := by
    simp [edge, lowerEnd, significandOf]
  have second : edge (0 + 1) = 2 := by
    simp [edge_succ, upperEnd, significandOf]
  rw [RoundsTo, if_pos rfl, first, second]
  refine ⟨by simpa using low, high.le.trans ?_⟩
  have powers : (2 : Rat) ^ 1076 ≤ 2 * 10 ^ 330 := by
    exact_mod_cast (by decide +kernel : 2 ^ 1076 ≤ 2 * 10 ^ 330)
  rw [zpow_neg, inv_eq_one_div, div_le_div_iff₀ (by positivity) (by positivity), one_mul]
  exact_mod_cast powers

theorem significand_shortest_pos (tie : Tie) (nonzero : significand x ≠ 0) :
    0 < (shortest tie x).significand := by
  refine Nat.pos_of_ne_zero fun none => nonzero ?_
  have covered := covers_shortest tie x
  have zero : RoundsTo 0 0 := roundsTo_zero le_rfl (by positivity)
  rw [none, quantity, Nat.cast_zero, Int.cast_zero, zero_mul, covers_interval_iff] at covered
  have place := eq_of_roundsTo zero covered
  unfold rank at place
  unfold significand
  split <;> omega

/-- Nothing that is far above the largest double rounds to a finite one. -/
theorem lt_of_roundsTo {r : Nat} {q : Rat} (h : RoundsTo r q) (finite : r < 2047 * 2 ^ 52) :
    q < 10 ^ (330 : Int) := by
  have unit : (0 : Rat) < 2 ^ 1076 := pow_pos two_pos _
  have largest : Canonical 2046 (2 ^ 52) := ⟨by norm_num, .inl le_rfl⟩
  have below : edge (r + 1) ≤ 4 * 2 ^ 52 * 2 ^ 2046 :=
    (edge_strictMono.monotone finite).trans largest.edge_le
  have high : q ≤ (edge (r + 1) : Rat) / 2 ^ 1076 := by
    rw [RoundsTo] at h
    split at h
    · exact h.2
    · exact h.2.le
  have powers : 4 * 2 ^ 52 * 2 ^ 2046 < 10 ^ 330 * 2 ^ 1076 := by decide +kernel
  have bound : (edge (r + 1) : Rat) < 10 ^ 330 * 2 ^ 1076 := by
    exact_mod_cast below.trans_lt powers
  refine high.trans_lt ?_
  rw [div_lt_iff₀ unit]
  exact_mod_cast bound

theorem decimalLength_le (s : Nat) : decimalLength s ≤ s.log2 + 1 := by
  rw [decimalLength, Text.length_writeNatural_le_iff (Nat.succ_pos _)]
  exact Nat.lt_log2_self.trans_le (Nat.pow_le_pow_left (by decide) _)

/-- The double nearest to a decimal that lies in the interval of a finite double is that double. -/
theorem ofDecimal_eq (finite : x.isFinite = true)
    (covers : (interval x).Covers (quantity s (-e))) : ofDecimal (isNegative x) s e = x := by
  have ten : (1 : Rat) < 10 := by norm_num
  have limit := isFinite_iff_rank.1 finite
  rw [covers_interval_iff] at covers
  unfold ofDecimal
  dsimp only
  by_cases none : s = 0 ∨ e + decimalLength s < -330
  · have zero : RoundsTo 0 (quantity s (-e)) := by
      rcases none with rfl | small
      · rw [quantity, Nat.cast_zero, Int.cast_zero, zero_mul]
        exact roundsTo_zero le_rfl (by positivity)
      · refine roundsTo_zero ?_ ((quantity_lt s e).trans (zpow_lt_zpow_right₀ ten small))
        rw [quantity]
        positivity
    rw [if_pos none]
    refine withSign_eq (by decide) (by decide) ?_
    rw [← eq_of_roundsTo zero covers]
    decide
  · rw [not_or, not_lt] at none
    obtain ⟨nonzero, large⟩ := none
    have positive := Nat.pos_of_ne_zero nonzero
    have short := decimalLength_le s
    have some_digit : 0 < decimalLength s := Text.length_writeNatural_pos s
    have top := (le_quantity positive e).trans_lt (lt_of_roundsTo covers limit)
    rw [zpow_lt_zpow_iff_right₀ ten] at top
    obtain ⟨r, rounds, fields⟩ := rounded_ofScientific (e := e) positive (by omega) (by omega)
    obtain rfl := eq_of_roundsTo rounds covers
    obtain ⟨sign, place⟩ := fields limit
    rw [if_neg (by omega), if_neg (by omega)]
    exact withSign_eq (isFinite_iff_rank.2 (place.trans_lt limit)) sign place

end nearest

end FormulaTree.Double
