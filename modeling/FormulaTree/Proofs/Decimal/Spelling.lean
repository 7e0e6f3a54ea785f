import FormulaTree.Proofs.Decimal.Grammar
import FormulaTree.Proofs.Decimal.Quantity
import FormulaTree.Proofs.Value.Fields
import Mathlib.Tactic.FieldSimp

set_option autoImplicit false

namespace FormulaTree.Decimal

open Text Value

namespace Literal

/-- The number that a literal writes: its digits before and after the point, with its sign, times
its power of ten. -/
def number (l : Literal) : Rat :=
  (if l.sign = .minus then -1 else 1)
    * (naturalOf l.whole + naturalOf l.places / 10 ^ l.places.length) * 10 ^ l.exponent

def ExponentFits (l : Literal) : Prop :=
  -2 ^ 127 ≤ l.exponent ∧ l.exponent < 2 ^ 127

def ScaleFits (l : Literal) : Prop :=
  -2 ^ 63 ≤ l.scale ∧ l.scale < 2 ^ 63

instance (l : Literal) : Decidable l.ExponentFits :=
  inferInstanceAs (Decidable (_ ∧ _))

instance (l : Literal) : Decidable l.ScaleFits :=
  inferInstanceAs (Decidable (_ ∧ _))

theorem mantissa_eq (l : Literal) :
    (l.mantissa : Rat)
      = (if l.sign = .minus then -1 else 1)
        * (naturalOf l.whole * 10 ^ l.places.length + naturalOf l.places) := by
  rw [mantissa, Sign.apply, naturalOf_append]
  split <;> push_cast <;> ring

/-- Reading the digits as one integer and moving the point afterwards gives the number. -/
theorem number_eq (l : Literal) : l.number = quantity l.mantissa l.scale := by
  have ten : (10 : Rat) ≠ 0 := by norm_num
  have power : (10 : Rat) ^ (-l.scale) = 10 ^ l.exponent / 10 ^ l.places.length := by
    rw [scale, neg_sub, zpow_sub₀ ten, zpow_natCast]
  have nonzero : (10 : Rat) ^ l.places.length ≠ 0 := pow_ne_zero _ ten
  rw [number, quantity, power, mantissa_eq]
  field_simp

def decimal (l : Literal) : Decimal :=
  ofParts l.mantissa (Int64.ofInt l.scale)

theorem value_decimal {l : Literal} (fits : l.ScaleFits) : l.decimal.value = l.number := by
  rw [decimal, value_ofParts, Int64.toInt_ofInt_of_le fits.1 fits.2, number_eq]

theorem decimal_eq_of_number_eq {l l' : Literal} (fits : l.ScaleFits) (fits' : l'.ScaleFits)
    (same : l.number = l'.number) : l.decimal = l'.decimal := by
  refine eq_of_value_eq ?_
  rw [value_decimal fits, value_decimal fits', same]

end Literal

/-- A text that writes a literal is read or refused by the numbers of that literal. -/
theorem decimalOfText_of_written {l : Literal} {text : String} (written : l.WrittenIn text) :
    decimalOfText text
      = if l.ExponentFits ∧ l.ScaleFits then .ok l.decimal
        else .error (.invalidArgument (.literal text)) := by
  have exponent : inWord 128 l.exponent = true ↔ l.ExponentFits := inWord_iff
  have scale : inWord 64 l.scale = true ↔ l.ScaleFits := inWord_iff
  rw [decimalOfText, Literal.ofLiteral?_of_written written]
  by_cases fits : l.ExponentFits ∧ l.ScaleFits
  · rw [if_pos ⟨exponent.2 fits.1, scale.2 fits.2⟩, if_pos fits]
    rfl
  · rw [if_neg fun both => fits ⟨exponent.1 both.1, scale.1 both.2⟩, if_neg fits]

theorem fits_of_decimalOfText {l : Literal} {text : String} {d : Decimal}
    (written : l.WrittenIn text) (h : decimalOfText text = .ok d) :
    (l.ExponentFits ∧ l.ScaleFits) ∧ l.decimal = d := by
  rw [decimalOfText_of_written written] at h
  split at h
  · rename_i fits
    exact ⟨fits, Except.ok.inj h⟩
  · cases h

/-- Exactly the literals are read whose exponent fits 128 bits and whose scale fits 64, as the number
that they write, and the error for any other text names it. -/
theorem decimalOfText_reads_literals (text : String) :
    ((∃ d, decimalOfText text = .ok d) ↔
      ∃ l : Literal, l.WrittenIn text ∧ l.ExponentFits ∧ l.ScaleFits) ∧
    (∀ (d : Decimal) (l : Literal), decimalOfText text = .ok d → l.WrittenIn text →
      d.value = l.number) ∧
    ∀ e, decimalOfText text = .error e → e = .invalidArgument (.literal text) := by
  refine ⟨⟨?_, ?_⟩, ?_, ?_⟩
  · rintro ⟨d, read⟩
    obtain ⟨l, written⟩ := exists_literal (decimalOfText_eq_ok_iff.1 read)
    exact ⟨l, written, (fits_of_decimalOfText written read).1⟩
  · rintro ⟨l, written, fits⟩
    exact ⟨l.decimal, (decimalOfText_of_written written).trans (if_pos fits)⟩
  · intro d l read written
    obtain ⟨fits, rfl⟩ := fits_of_decimalOfText written read
    exact Literal.value_decimal fits.2
  · intro e refused
    unfold decimalOfText at refused
    split at refused
    · cases refused
    · exact (Except.error.inj refused).symm

def plusTwelve : Literal where
  sign := .plus
  whole := ['0', '1', '2', '0']
  fraction := some []
  power := some ⟨'E', .minus, ['0', '1'], .inr rfl, by decide, List.all_eq_true.1 (by decide)⟩
  whole_digits := List.all_eq_true.1 (by decide)
  fraction_digits := List.all_eq_true.1 (by decide)
  some_digit := by decide

theorem decimalOfText_reads_literals_padded :
    decimalOfText "\t +0120.E-01\n" = .ok (ofParts 12 0) ∧ (ofParts 12 0).value = plusTwelve.number ∧
    (∃ l : Literal, l.WrittenIn "\t +0120.E-01\n" ∧ l.ExponentFits ∧ l.ScaleFits) ∧
    decimalOfText "1 0" = .error (.invalidArgument (.literal "1 0")) := by
  have read : decimalOfText "\t +0120.E-01\n" = .ok (ofParts 12 0) := by decide +kernel
  have written : plusTwelve.WrittenIn "\t +0120.E-01\n" :=
    ⟨['\t', ' '], ['\n'], List.all_eq_true.1 (by decide), by decide⟩
  have refused : decimalOfText "1 0" = .error (.invalidArgument (.literal "1 0")) := by
    decide +kernel
  obtain ⟨accepted, number, -⟩ := decimalOfText_reads_literals "\t +0120.E-01\n"
  exact ⟨read, number _ _ read written, accepted.1 ⟨_, read⟩, refused⟩

/-- Of two literals of one number, each is read as the decimal of that number if its own scale fits,
and refused if it does not. -/
theorem decimalOfText_by_scale {l l' : Literal} {text text' : String} (written : l.WrittenIn text)
    (written' : l'.WrittenIn text') (small : l.ExponentFits) (small' : l'.ExponentFits)
    (same : l.number = l'.number) :
    ∃ d, (decimalOfText text
        = if l.ScaleFits then .ok d else .error (.invalidArgument (.literal text))) ∧
      decimalOfText text'
        = if l'.ScaleFits then .ok d else .error (.invalidArgument (.literal text')) := by
  have first := decimalOfText_of_written written
  have second := decimalOfText_of_written written'
  simp only [small, small', true_and] at first second
  by_cases fits : l.ScaleFits
  · refine ⟨l.decimal, first, ?_⟩
    rw [second]
    split
    · rename_i fits'
      rw [Literal.decimal_eq_of_number_eq fits fits' same]
    · rfl
  · exact ⟨l'.decimal, by rw [first, if_neg fits, if_neg fits], second⟩

def twelve : Literal where
  sign := .none
  whole := ['1', '2']
  fraction := none
  power := none
  whole_digits := List.all_eq_true.1 (by decide)
  fraction_digits := List.all_eq_true.1 (by decide)
  some_digit := by decide

theorem decimalOfText_by_scale_twelve :
    plusTwelve.number = twelve.number ∧
    ∃ d, decimalOfText "+0120.E-01" = .ok d ∧ decimalOfText "12" = .ok d := by
  have same : plusTwelve.number = twelve.number := by
    have moved := quantity_mul_pow 12 1 1
    have zero : plusTwelve.mantissa = 12 * 10 ^ 1 ∧ plusTwelve.scale = 1 := by decide
    have plain : twelve.mantissa = 12 ∧ twelve.scale = 1 - (1 : Nat) := by decide
    rw [Literal.number_eq, Literal.number_eq, zero.1, zero.2, plain.1, plain.2, moved]
  have written : plusTwelve.WrittenIn "+0120.E-01" := ⟨[], [], by simp, by decide⟩
  have written' : twelve.WrittenIn "12" := ⟨[], [], by simp, by decide⟩
  obtain ⟨d, read, read'⟩ :=
    decimalOfText_by_scale written written' (by decide) (by decide) same
  rw [if_pos (by decide)] at read read'
  exact ⟨same, d, read, read'⟩

def atEnd (beyond : Bool) : Power where
  mark := 'e'
  sign := .minus
  digits := writeNatural (if beyond then 9223372036854775808 else 9223372036854775807)
  mark_eq := Power.lower_mark
  nonempty := writeNatural_ne_nil _
  all_digits := fun _ mem => isDigit_of_mem_writeNatural mem

def leastOne (zero : Bool) : Literal where
  sign := .none
  whole := if zero then ['1', '0'] else ['1']
  fraction := none
  power := some (atEnd zero)
  whole_digits := List.all_eq_true.1 (by cases zero <;> decide)
  fraction_digits := List.all_eq_true.1 (by decide)
  some_digit := by cases zero <;> decide

/-- Two literals of one number, one of which is refused. -/
theorem spelling_at_least_scale :
    (leastOne false).WrittenIn "1e-9223372036854775807" ∧
    (leastOne true).WrittenIn "10e-9223372036854775808" ∧
    (leastOne false).ExponentFits ∧ (leastOne true).ExponentFits ∧
    (leastOne false).number = (leastOne true).number ∧
    decimalOfText "1e-9223372036854775807" = .ok (ofParts 1 Int64.maxValue) ∧
    decimalOfText "10e-9223372036854775808"
      = .error (.invalidArgument (.literal "10e-9223372036854775808")) := by
  refine ⟨⟨[], [], by simp, by decide⟩, ⟨[], [], by simp, by decide⟩, by decide, by decide, ?_,
    by decide +kernel, by decide +kernel⟩
  have moved := quantity_mul_pow 1 (2 ^ 63) 1
  have without : (leastOne false).mantissa = 1 ∧ (leastOne false).scale = 2 ^ 63 - (1 : Nat) := by
    decide
  have withZero : (leastOne true).mantissa = 1 * 10 ^ 1 ∧ (leastOne true).scale = 2 ^ 63 := by
    decide
  rw [Literal.number_eq, Literal.number_eq, without.1, without.2, withZero.1, withZero.2, moved]

end FormulaTree.Decimal
