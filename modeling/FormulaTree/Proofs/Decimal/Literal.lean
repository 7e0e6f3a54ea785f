import FormulaTree.Proofs.Decimal.Grammar
import Mathlib.Algebra.Group.Int.Defs

set_option autoImplicit false

namespace FormulaTree.Decimal

open Text

theorem strip_of_mod_ne {mantissa : Int} (h : mantissa % 10 ≠ 0) (scale : Int64) :
    strip mantissa scale = (mantissa, scale) := by
  rw [strip, if_neg fun more => h more.2.1]

theorem strip_mul_pow {mantissa : Int} (h : mantissa % 10 ≠ 0) {scale : Int} {zeros : Nat}
    (low : -2 ^ 63 ≤ scale - zeros) (high : scale < 2 ^ 63) :
    strip (mantissa * 10 ^ zeros) (Int64.ofInt scale)
      = (mantissa, Int64.ofInt (scale - zeros)) := by
  induction zeros generalizing scale with
  | zero => simpa using strip_of_mod_ne h (Int64.ofInt scale)
  | succ zeros ih =>
    have nonzero : mantissa * 10 ^ (zeros + 1) ≠ 0 := by
      have : mantissa ≠ 0 := by
        rintro rfl
        exact h rfl
      exact Int.mul_ne_zero this (Int.pow_ne_zero (by decide))
    have tenfold : mantissa * 10 ^ (zeros + 1) = mantissa * 10 ^ zeros * 10 := by
      rw [Int.pow_succ, Int.mul_assoc]
    have more : Int64.ofInt scale ≠ Int64.minValue := by
      intro least
      have same := congrArg Int64.toInt least
      rw [Int64.toInt_ofInt_of_le (by omega) high] at same
      simp at same
      omega
    have next : Int64.ofInt scale - 1 = Int64.ofInt (scale - 1) := by
      rw [Int64.ofInt_sub]
      rfl
    rw [strip, if_pos ⟨nonzero, by omega, more⟩, tenfold, Int.mul_ediv_cancel _ (by decide), next,
      ih (by omega) (by omega)]
    congr 2
    omega

theorem ofParts_self (d : Decimal) : ofParts d.mantissa d.scale = d := by
  obtain ⟨mantissa, scale, normal⟩ := d
  unfold ofParts
  split
  · rename_i zero
    obtain rfl : mantissa = 0 := zero
    obtain rfl : scale = 0 := normal.1 rfl
    rfl
  · rename_i nonzero
    have fixed : strip mantissa scale = (mantissa, scale) := by
      rw [strip, if_neg fun more => more.2.2 (normal.2 nonzero more.2.1)]
    simp [fixed]

/-- Zeros after the mantissa of a decimal that has that many more places before the point. -/
theorem ofParts_mul_pow (d : Decimal) {zeros : Nat} (scale : d.scale.toInt = -zeros)
    (room : (zeros : Int) < 2 ^ 63) : ofParts (d.mantissa * 10 ^ zeros) (Int64.ofInt 0) = d := by
  rcases Nat.eq_zero_or_pos zeros with rfl | some_zero
  · have same : Int64.ofInt 0 = d.scale := by
      rw [← Int64.ofInt_toInt d.scale, scale]
      rfl
    simpa [same] using ofParts_self d
  · have nonzero : d.mantissa ≠ 0 := by
      intro zero
      rw [d.normal.1 zero] at scale
      simp at scale
      omega
    have last : d.mantissa % 10 ≠ 0 := by
      intro zero
      rw [d.normal.2 nonzero zero] at scale
      simp at scale
      omega
    have product : d.mantissa * 10 ^ zeros ≠ 0 :=
      Int.mul_ne_zero nonzero (Int.pow_ne_zero (by decide))
    have stripped : strip (d.mantissa * 10 ^ zeros) (Int64.ofInt 0)
        = (d.mantissa, Int64.ofInt (0 - zeros)) := strip_mul_pow last (by omega) (by omega)
    rw [Int.zero_sub, ← scale, Int64.ofInt_toInt] at stripped
    obtain ⟨mantissa, scale, normal⟩ := d
    simp only [ofParts, dif_neg product, stripped]

structure Pieces where
  whole : List Char
  fraction : List Char
  exponent : Int
  nonempty : whole ≠ []
  whole_digits : ∀ c ∈ whole, c.isDigit = true
  fraction_digits : ∀ c ∈ fraction, c.isDigit = true

namespace Pieces

def point (pieces : Pieces) : List Char :=
  if pieces.fraction = [] then [] else '.' :: pieces.fraction

def power (pieces : Pieces) : List Char :=
  if pieces.exponent = 0 then [] else 'e' :: writeInteger pieces.exponent

def number (pieces : Pieces) : Nat :=
  naturalOf (pieces.whole ++ pieces.fraction)

def scale (pieces : Pieces) : Int :=
  pieces.fraction.length - pieces.exponent

def front (pieces : Pieces) (negative : Bool) : List Char :=
  (if negative then ['-'] else []) ++ (pieces.whole ++ pieces.point)

def powerOfTen (pieces : Pieces) : Option Power :=
  if pieces.exponent = 0 then none
  else
    some ⟨'e', if pieces.exponent < 0 then .minus else .none,
      writeNatural pieces.exponent.natAbs, Power.lower_mark, writeNatural_ne_nil _,
      fun _ mem => isDigit_of_mem_writeNatural mem⟩

def literal (pieces : Pieces) (negative : Bool) : Literal where
  sign := if negative then .minus else .none
  whole := pieces.whole
  fraction := if pieces.fraction = [] then none else some pieces.fraction
  power := pieces.powerOfTen
  whole_digits := pieces.whole_digits
  fraction_digits := by
    have digits := pieces.fraction_digits
    by_cases none : pieces.fraction = [] <;> simp_all
  some_digit := by simp [pieces.nonempty]

theorem powerChars_powerOfTen (pieces : Pieces) : powerChars pieces.powerOfTen = pieces.power := by
  unfold powerOfTen power
  split
  · rfl
  · simp only [powerChars, Power.chars, writeInteger]
    split <;> rfl

theorem chars_literal (pieces : Pieces) (negative : Bool) :
    (pieces.literal negative).chars = pieces.front negative ++ pieces.power := by
  have sign : (pieces.literal negative).sign.chars = if negative then ['-'] else [] := by
    cases negative <;> rfl
  have point : pointChars (pieces.literal negative).fraction = pieces.point := by
    by_cases none : pieces.fraction = [] <;> simp [literal, Pieces.point, pointChars, none]
  have power : powerChars (pieces.literal negative).power = pieces.power :=
    pieces.powerChars_powerOfTen
  rw [Literal.chars, Literal.unsigned, sign, point, power]
  rfl

theorem places_literal (pieces : Pieces) (negative : Bool) :
    (pieces.literal negative).places = pieces.fraction := by
  by_cases none : pieces.fraction = [] <;> simp [Literal.places, literal, none]

theorem exponent_literal (pieces : Pieces) (negative : Bool) :
    (pieces.literal negative).exponent = pieces.exponent := by
  by_cases zero : pieces.exponent = 0
  · simp [Literal.exponent, literal, powerOfTen, zero]
  · simp only [Literal.exponent, literal, powerOfTen, zero, if_false, Power.exponent, Sign.apply,
      naturalOf_writeNatural]
    by_cases below : pieces.exponent < 0
    · simp only [below, if_true]
      omega
    · simp only [below, if_false, reduceCtorEq]
      omega

theorem mantissa_literal (pieces : Pieces) (negative : Bool) :
    (pieces.literal negative).mantissa
      = if negative then -(pieces.number : Int) else pieces.number := by
  rw [Literal.mantissa, places_literal]
  cases negative <;> rfl

theorem scale_literal (pieces : Pieces) (negative : Bool) :
    (pieces.literal negative).scale = pieces.scale := by
  rw [Literal.scale, places_literal, exponent_literal, scale]

theorem ofLiteral?_eq {pieces : Pieces} (small : inWord 128 pieces.exponent = true)
    (fits : inWord 64 pieces.scale = true) (negative : Bool) :
    ofLiteral? (String.ofList (pieces.front negative ++ pieces.power))
      = some (ofParts (if negative then -(pieces.number : Int) else pieces.number)
        (Int64.ofInt pieces.scale)) := by
  have written : (pieces.literal negative).WrittenIn
      (String.ofList (pieces.front negative ++ pieces.power)) :=
    ⟨[], [], by simp, by simp [chars_literal]⟩
  rw [Literal.ofLiteral?_of_written written, exponent_literal, scale_literal, mantissa_literal,
    if_pos ⟨small, fits⟩]

end Pieces

/-- The layout of a magnitude is a literal; it shows the digits and perhaps some zeros. -/
theorem magnitude_eq {digits : List Char} (nonempty : digits ≠ [])
    (all : ∀ c ∈ digits, c.isDigit = true) (scale : Int) :
    ∃ (pieces : Pieces) (zeros : Nat),
      magnitude digits scale = pieces.whole ++ pieces.point ++ pieces.power ∧
      pieces.number = naturalOf digits * 10 ^ zeros ∧ pieces.scale = scale + zeros ∧
      (pieces.exponent = 0 ∨ pieces.exponent = -scale) ∧
      (zeros = 0 ∨ scale = -zeros ∧ zeros ≤ plainZeros) := by
  unfold magnitude
  split
  · rename_i exponential
    have nonzero : -scale ≠ 0 := by
      simp only [plainZeros] at exponential
      omega
    exact ⟨⟨digits, [], -scale, nonempty, all, by simp⟩, 0,
      by simp [Pieces.point, Pieces.power, nonzero], by simp [Pieces.number],
      by simp [Pieces.scale], .inr rfl, .inl rfl⟩
  · rename_i positional
    split
    · rename_i not_positive
      have zeros_digits : ∀ c ∈ digits ++ List.replicate scale.natAbs '0', c.isDigit = true := by
        intro c mem
        rcases List.mem_append.1 mem with mem | mem
        · exact all c mem
        · rw [List.eq_of_mem_replicate mem]
          rfl
      refine ⟨⟨digits ++ List.replicate scale.natAbs '0', [], 0, by simp [nonempty], zeros_digits,
        by simp⟩, scale.natAbs, by simp [Pieces.point, Pieces.power], ?_, ?_, .inl rfl, .inr ?_⟩
      · simp [Pieces.number, naturalOf_append, naturalOf_zeros]
      · simp only [Pieces.scale, List.length_nil]
        omega
      · simp only [plainZeros] at positional ⊢
        omega
    · rename_i positive
      split
      · rename_i inside
        have kept : digits.drop (digits.length - scale.toNat) ≠ [] := by
          rw [← List.length_pos_iff, List.length_drop]
          omega
        have front : digits.take (digits.length - scale.toNat) ≠ [] := by
          rw [← List.length_pos_iff, List.length_take]
          omega
        refine ⟨⟨digits.take (digits.length - scale.toNat),
          digits.drop (digits.length - scale.toNat), 0, front,
          fun c mem => all c (List.mem_of_mem_take mem),
          fun c mem => all c (List.mem_of_mem_drop mem)⟩, 0, ?_, ?_, ?_, .inl rfl, .inl rfl⟩
        · simp only [Pieces.point, Pieces.power, if_neg kept, if_true, List.append_nil]
        · simp [Pieces.number]
        · simp only [Pieces.scale, List.length_drop]
          omega
      · rename_i outside
        have zeros_digits : ∀ c ∈ List.replicate (scale.toNat - digits.length) '0' ++ digits,
            c.isDigit = true := by
          intro c mem
          rcases List.mem_append.1 mem with mem | mem
          · rw [List.eq_of_mem_replicate mem]
            rfl
          · exact all c mem
        refine ⟨⟨['0'], List.replicate (scale.toNat - digits.length) '0' ++ digits, 0, by simp,
          by simp, zeros_digits⟩, 0, ?_, ?_, ?_, .inl rfl, .inl rfl⟩
        · simp [Pieces.point, Pieces.power, nonempty]
        · have leading := naturalOf_append ['0']
            (List.replicate (scale.toNat - digits.length) '0' ++ digits)
          simp only [Pieces.number, leading, naturalOf_append, naturalOf_zeros]
          simp [naturalOf]
        · simp only [Pieces.scale, List.length_append, List.length_replicate]
          omega

theorem signed_natAbs (n : Int) (factor : Nat) :
    (if decide (n < 0) then -((n.natAbs * factor : Nat) : Int) else (n.natAbs * factor : Nat))
      = n * factor := by
  split
  · rename_i negative
    have := of_decide_eq_true negative
    rw [Int.natCast_mul, Int.ofNat_natAbs_of_nonpos (by omega), Int.neg_mul, Int.neg_neg]
  · rename_i not_negative
    have := of_decide_eq_false (Bool.eq_false_iff.2 not_negative)
    rw [Int.natCast_mul, Int.natAbs_of_nonneg (by omega)]

theorem ofLiteral?_write (d : Decimal) : ofLiteral? d.write = some d := by
  have low : -2 ^ 63 ≤ d.scale.toInt := Int64.le_toInt d.scale
  have high : d.scale.toInt < 2 ^ 63 := Int64.toInt_lt d.scale
  obtain ⟨pieces, zeros, text, number, scale, exponent, shown⟩ :=
    magnitude_eq (writeNatural_ne_nil d.mantissa.natAbs)
      (fun _ mem => isDigit_of_mem_writeNatural mem) d.scale.toInt
  have small : inWord 128 pieces.exponent = true := by
    rcases exponent with exponent | exponent
    · simp [inWord_iff, exponent]
    · simp [inWord_iff, exponent]
      omega
  have fits : inWord 64 pieces.scale = true := by
    simp only [plainZeros] at shown
    simp [inWord_iff, scale]
    omega
  have written : d.write
      = String.ofList (pieces.front (decide (d.mantissa < 0)) ++ pieces.power) := by
    simp [write, text, Pieces.front]
  rw [written, Pieces.ofLiteral?_eq small fits, number, naturalOf_writeNatural, signed_natAbs, scale]
  have power : ((10 ^ zeros : Nat) : Int) = 10 ^ zeros := by
    push_cast
    rfl
  rw [power]
  rcases shown with rfl | ⟨zeros_eq, few⟩
  · simpa using ofParts_self d
  · have whole : d.scale.toInt + zeros = 0 := by omega
    simp only [plainZeros] at few
    rw [whole, ofParts_mul_pow d zeros_eq (by omega)]

end FormulaTree.Decimal
