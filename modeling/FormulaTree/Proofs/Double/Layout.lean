import FormulaTree.Proofs.Decimal.Spelling
import FormulaTree.Proofs.Double.Interval
import FormulaTree.Value.Display

set_option autoImplicit false

namespace FormulaTree.Decimal.Literal

open Text

/-- The literal is digits, perhaps with a point among them. -/
structure Plain (l : Literal) : Prop where
  sign : l.sign = .none
  power : l.power = none

variable {l l' : Literal}

theorem Plain.chars_eq (plain : l.Plain) : l.chars = l.unsigned := by
  rw [chars, plain.sign, plain.power]
  exact List.append_nil _

theorem Plain.number_eq (plain : l.Plain) :
    l.number = quantity (naturalOf (l.whole ++ l.places)) l.places.length := by
  rw [Literal.number_eq, mantissa, scale, exponent, plain.sign, plain.power, Int.sub_zero]
  rfl

theorem Plain.number_eq_of_chars (plain : l.Plain) (plain' : l'.Plain)
    (same : l.chars = l'.chars) : l.number = l'.number := by
  rw [plain.chars_eq, plain'.chars_eq] at same
  have parted := congrArg (List.span (· != '.')) same
  rw [span_unsigned, span_unsigned, Prod.mk.injEq] at parted
  have places : l.places = l'.places := by
    rw [Literal.places, Literal.places, ← drop_pointChars, parted.2, drop_pointChars]
  rw [plain.number_eq, plain'.number_eq, parted.1, places]

end FormulaTree.Decimal.Literal

namespace FormulaTree.Double

open Decimal Text

theorem isDigit_of_mem_zeros {count : Nat} {c : Char} (h : c ∈ zeros count) : c.isDigit = true := by
  rw [List.eq_of_mem_replicate h]
  rfl

theorem naturalOf_zeros_append (count : Nat) (digits : List Char) :
    naturalOf (zeros count ++ digits) = naturalOf digits := by
  rw [naturalOf_append, zeros, naturalOf_zeros, Nat.zero_mul, Nat.zero_add]

theorem naturalOf_append_zeros (digits : List Char) (count : Nat) :
    naturalOf (digits ++ zeros count) = naturalOf digits * 10 ^ count := by
  rw [naturalOf_append, zeros, naturalOf_zeros, List.length_replicate, Nat.add_zero]

structure Positional where
  whole : List Char
  fraction : Option (List Char)
  whole_digits : ∀ c ∈ whole, c.isDigit = true
  fraction_digits : ∀ c ∈ fraction.getD [], c.isDigit = true
  some_whole : whole ≠ []
  some_fraction : fraction ≠ some []

namespace Positional

variable (n : Positional)

def chars : List Char :=
  n.whole ++ pointChars n.fraction

def places : List Char :=
  n.fraction.getD []

def value : Rat :=
  quantity (naturalOf (n.whole ++ n.places)) n.places.length

def literal : Literal where
  sign := .none
  whole := n.whole
  fraction := n.fraction
  power := none
  whole_digits := n.whole_digits
  fraction_digits := n.fraction_digits
  some_digit := List.append_ne_nil_of_left_ne_nil n.some_whole _

theorem plain_literal : n.literal.Plain :=
  ⟨rfl, rfl⟩

theorem chars_literal : n.literal.chars = n.chars :=
  n.plain_literal.chars_eq

theorem number_literal : n.literal.number = n.value :=
  n.plain_literal.number_eq

end Positional

section placed

variable {digits : List Char} (nonempty : digits ≠ []) (all : ∀ c ∈ digits, c.isDigit = true)

include nonempty all in
theorem exists_placed_before (count : Nat) :
    ∃ n : Positional, n.chars = '0' :: '.' :: zeros count ++ digits ∧
      n.value = quantity (naturalOf digits) (digits.length + count) ∧ n.fraction ≠ none ∧
      n.whole = ['0'] := by
  have digit : ∀ c ∈ zeros count ++ digits, c.isDigit = true := by
    simp only [List.mem_append]
    rintro c (mem | mem)
    · exact isDigit_of_mem_zeros mem
    · exact all c mem
  let n : Positional :=
    ⟨zeros 1, some (zeros count ++ digits), fun _ mem => isDigit_of_mem_zeros mem, digit,
      by simp [zeros], by simp [nonempty]⟩
  have places : ((zeros count ++ digits).length : Int) = digits.length + count := by
    rw [List.length_append, zeros, List.length_replicate]
    omega
  refine ⟨n, rfl, ?_, Option.some_ne_none _, rfl⟩
  change quantity (naturalOf (zeros 1 ++ (zeros count ++ digits))) (zeros count ++ digits).length = _
  rw [naturalOf_zeros_append, naturalOf_zeros_append, places]

include nonempty all in
theorem exists_placed_behind (wholePoint : Bool) (count : Nat) :
    ∃ n : Positional, n.chars = digits ++ zeros count ++ (if wholePoint then ['.', '0'] else []) ∧
      n.value = quantity (naturalOf digits) (-count) ∧ (wholePoint = true → n.fraction ≠ none) ∧
      n.whole.head? = digits.head? := by
  have digit : ∀ c ∈ digits ++ zeros count, c.isDigit = true := by
    simp only [List.mem_append]
    rintro c (mem | mem)
    · exact all c mem
    · exact isDigit_of_mem_zeros mem
  have whole : digits ++ zeros count ≠ [] := List.append_ne_nil_of_left_ne_nil nonempty _
  have head : (digits ++ zeros count).head? = digits.head? :=
    List.head?_append_of_ne_nil _ nonempty
  cases wholePoint with
  | false =>
    refine ⟨⟨digits ++ zeros count, none, digit, nofun, whole, nofun⟩, rfl, ?_, nofun, head⟩
    change quantity (naturalOf (digits ++ zeros count ++ [])) (0 : Nat) = _
    rw [List.append_nil, naturalOf_append_zeros, Nat.cast_mul, Nat.cast_pow, Nat.cast_ofNat,
      quantity_mul_pow, Nat.cast_zero, zero_sub]
  | true =>
    refine ⟨⟨digits ++ zeros count, some (zeros 1), digit, fun _ mem => isDigit_of_mem_zeros mem,
      whole, by simp [zeros]⟩, rfl, ?_, fun _ => Option.some_ne_none _, head⟩
    change quantity (naturalOf (digits ++ zeros count ++ zeros 1)) (1 : Nat) = _
    rw [naturalOf_append_zeros, naturalOf_append_zeros, mul_assoc, ← pow_add, Nat.cast_mul,
      Nat.cast_pow, Nat.cast_ofNat, quantity_mul_pow]
    push_cast
    congr 1
    ring

include all in
theorem exists_placed_among {whole : Nat} (positive : 0 < whole) (inside : whole < digits.length) :
    ∃ n : Positional, n.chars = digits.take whole ++ '.' :: digits.drop whole ∧
      n.value = quantity (naturalOf digits) (digits.length - whole) ∧ n.fraction ≠ none ∧
      n.whole.head? = digits.head? := by
  have taken : digits.take whole ≠ [] := by
    rw [← List.length_pos_iff, List.length_take]
    omega
  have dropped : digits.drop whole ≠ [] := by
    rw [← List.length_pos_iff, List.length_drop]
    omega
  let n : Positional :=
    ⟨digits.take whole, some (digits.drop whole), fun c mem => all c (List.mem_of_mem_take mem),
      fun c mem => all c (List.mem_of_mem_drop mem), taken, by simpa using dropped⟩
  have places : ((digits.drop whole).length : Int) = digits.length - whole := by
    rw [List.length_drop]
    omega
  refine ⟨n, rfl, ?_, Option.some_ne_none _, ?_⟩
  · change quantity (naturalOf (digits.take whole ++ digits.drop whole)) (digits.drop whole).length
      = _
    rw [List.take_append_drop, places]
  · change (digits.take whole).head? = _
    rw [List.head?_take, if_neg positive.ne']

include nonempty all in
/-- Digits with a point in its place are a number of what the digits and the place say, and begin
with the digits or with a single zero. -/
theorem exists_placed (wholePoint : Bool) (p : Int) :
    ∃ n : Positional, n.chars = placePoint wholePoint digits p ∧
      n.value = quantity (naturalOf digits) (digits.length - p) ∧
      (wholePoint = true → n.fraction ≠ none) ∧
      (n.whole = ['0'] ∨ n.whole.head? = digits.head?) := by
  unfold placePoint
  by_cases before : p ≤ 0
  · have count : (digits.length : Int) + p.natAbs = digits.length - p := by omega
    obtain ⟨n, chars, value, parted, whole⟩ := exists_placed_before nonempty all p.natAbs
    rw [if_pos before, ← count]
    exact ⟨n, chars, value, fun _ => parted, .inl whole⟩
  · by_cases behind : digits.length ≤ p.toNat
    · have count : -((p.toNat - digits.length : Nat) : Int) = digits.length - p := by omega
      obtain ⟨n, chars, value, parted, head⟩ :=
        exists_placed_behind nonempty all wholePoint (p.toNat - digits.length)
      simp only [before, behind, if_false, if_true, ← count]
      exact ⟨n, chars, value, parted, .inr head⟩
    · have count : (digits.length : Int) - p.toNat = digits.length - p := by omega
      obtain ⟨n, chars, value, parted, head⟩ :=
        exists_placed_among all (by omega) (Nat.lt_of_not_le behind)
      simp only [before, behind, if_false, ← count]
      exact ⟨n, chars, value, fun _ => parted, .inr head⟩

end placed

/-- The magnitude of a double is written as a plain literal of a number in its interval. -/
theorem exists_literal_magnitude (x : Float) :
    ∃ l : Literal, l.Plain ∧ l.chars = Value.numbers.magnitude x ∧
      (interval x).Covers l.number := by
  by_cases zero : significand x = 0
  · obtain ⟨n, chars, number, -⟩ := @exists_placed ['0'] (by simp) (by simp) false 1
    have value : (interval x).value = 0 := by simp [interval, zero]
    have covered := covers_value x
    refine ⟨n.literal, n.plain_literal, ?_, ?_⟩
    · rw [n.chars_literal, chars, Layout.magnitude, if_pos zero]
      rfl
    · have none : n.literal.number = quantity 0 (interval x).places := by
        rw [n.number_literal, number, quantity, quantity]
        simp [naturalOf]
      rw [value] at covered
      exact none ▸ covered
  · have digits := writeNatural_ne_nil (shortest .up x).significand
    obtain ⟨n, chars, number, -⟩ := exists_placed digits
      (fun _ mem => isDigit_of_mem_writeNatural mem) false
      ((shortest .up x).exponent + (writeNatural (shortest .up x).significand).length)
    refine ⟨n.literal, n.plain_literal, ?_, ?_⟩
    · rw [n.chars_literal, chars, Layout.magnitude, if_neg zero]
      rfl
    · have place : ((writeNatural (shortest .up x).significand).length : Int)
          - ((shortest .up x).exponent + (writeNatural (shortest .up x).significand).length)
          = -(shortest .up x).exponent := by omega
      rw [n.number_literal, number, naturalOf_writeNatural, place]
      exact covers_shortest .up x

/-- The sign is written in front of the magnitude, which does not depend on it. -/
theorem magnitude_abs {x : Float} (finite : x.isFinite = true) :
    Value.numbers.magnitude x.abs = Value.numbers.magnitude x := by
  obtain ⟨-, -, exponent, fraction⟩ := fields_abs finite
  have significand_eq : significand x.abs = significand x := by
    rw [significand, significand, exponent, fraction]
  have interval_eq : interval x.abs = interval x := by
    rw [interval, interval, significand_eq, fraction, exponent, raisedExponent, raisedExponent,
      exponent]
  have shortest_eq : shortest .up x.abs = shortest .up x := by
    rw [shortest, shortest, interval_eq]
  simp only [Layout.magnitude, significand_eq, Value.numbers, shortest_eq]

theorem abs_of_not_negative {x : Float} (finite : x.isFinite = true)
    (sign : isNegative x = false) : x.abs = x := by
  obtain ⟨-, cleared, exponent, fraction⟩ := fields_abs finite
  exact eq_of_fields (cleared.trans sign.symm) exponent fraction

theorem mem_magnitude {x : Float} {c : Char} (h : c ∈ Value.numbers.magnitude x) :
    c = '.' ∨ c.isDigit = true := by
  obtain ⟨l, plain, chars, -⟩ := exists_literal_magnitude x
  rw [← chars, plain.chars_eq] at h
  exact Literal.mem_unsigned h

theorem magnitude_ne_nil (x : Float) : Value.numbers.magnitude x ≠ [] := by
  obtain ⟨l, -, chars, -⟩ := exists_literal_magnitude x
  exact chars ▸ l.chars_ne_nil

theorem rank_eq_of_magnitude {x y : Float}
    (same : Value.numbers.magnitude x = Value.numbers.magnitude y) : rank x = rank y := by
  obtain ⟨l, plain, chars, covers⟩ := exists_literal_magnitude x
  obtain ⟨l', plain', chars', covers'⟩ := exists_literal_magnitude y
  have number := plain.number_eq_of_chars plain' (by rw [chars, chars', same])
  rw [number] at covers
  exact rank_eq_of_covers covers covers'

/-- Finite doubles that are written with the same digits differ in their signs at most. -/
theorem abs_eq_of_magnitude {x y : Float} (finiteX : x.isFinite = true) (finiteY : y.isFinite = true)
    (same : Value.numbers.magnitude x = Value.numbers.magnitude y) : x.abs = y.abs := by
  obtain ⟨-, signX, exponentX, fractionX⟩ := fields_abs finiteX
  obtain ⟨-, signY, exponentY, fractionY⟩ := fields_abs finiteY
  have place := rank_eq_of_magnitude same
  refine eq_of_fields (signX.trans signY.symm) ?_ ?_
  · rw [exponentX, exponentY, ← rank_div, ← rank_div, place]
  · rw [fractionX, fractionY, ← rank_mod, ← rank_mod, place]

theorem writeNumber_of_isFinite {x : Float} (finite : x.isFinite = true) :
    (Value.writeNumber x).toList
      = (if isNegative x then ['-'] else []) ++ Value.numbers.magnitude x := by
  obtain ⟨number, bounded⟩ := isNaN_isInf_of_isFinite finite
  rw [Value.writeNumber, number, bounded]
  exact String.toList_ofList

end FormulaTree.Double
