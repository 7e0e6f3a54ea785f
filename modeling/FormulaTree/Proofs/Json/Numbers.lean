import FormulaTree.Json.Token
import FormulaTree.Json.Writer
import FormulaTree.Proofs.Decimal.Grammar
import FormulaTree.Proofs.Double.Layout
import FormulaTree.Proofs.Double.Reading
import Mathlib.Tactic.IntervalCases

set_option autoImplicit false

namespace FormulaTree.Json

open Text Decimal

/-- What stands behind a value in a compact text: nothing, or the mark after it. -/
def Ends (rest : List Char) : Prop :=
  ∀ c ∈ rest.head?, c = ',' ∨ c = ']' ∨ c = '\x7d'

def exponentChars : Option (Bool × List Char) → List Char
  | none => []
  | some (negative, digits) => 'e' :: (if negative then '-' else '+') :: digits

structure Unsigned extends Double.Positional where
  exponent : Option (Bool × List Char)
  exponent_digits : ∀ power ∈ exponent, ∀ c ∈ power.2, c.isDigit = true
  some_exponent : ∀ power ∈ exponent, power.2 ≠ []
  /-- Zero is written with one digit, and no other number begins with it. -/
  no_zeros : whole.head? = some '0' → whole.length = 1

namespace Unsigned

variable (n : Unsigned)

def chars : List Char :=
  n.toPositional.chars ++ exponentChars n.exponent

def power : Int :=
  match n.exponent with
  | none => 0
  | some (negative, digits) => if negative then -naturalOf digits else naturalOf digits

def value : Rat :=
  quantity (naturalOf (n.whole ++ n.places)) (n.places.length - n.power)

end Unsigned

theorem digitsOf_append {digits rest : List Char} (all : ∀ c ∈ digits, c.isDigit = true)
    (stop : ∀ c ∈ rest.head?, c.isDigit = false) :
    digitsOf (digits ++ rest) = digits ∧ afterDigits (digits ++ rest) = rest := by
  have divided := span_append all stop
  rw [List.span_eq_takeWhile_dropWhile, Prod.mk.injEq] at divided
  exact divided

theorem isDigit_of_ends {rest : List Char} (ends : Ends rest) :
    ∀ c ∈ rest.head?, c.isDigit = false := by
  intro c head
  rcases ends c head with rfl | rfl | rfl <;> rfl

theorem scanExponent_eq (n : Unsigned) {rest : List Char} (ends : Ends rest) :
    scanExponent (exponentChars n.exponent ++ rest)
      = some (n.exponent.map Prod.snd, n.exponent.elim false Prod.fst, rest) := by
  have all := n.exponent_digits
  have nonempty := n.some_exponent
  cases h : n.exponent with
  | none =>
    cases rest with
    | nil => rfl
    | cons c rest =>
      rcases ends c rfl with rfl | rfl | rfl <;> rfl
  | some power =>
    obtain ⟨negative, digits⟩ := power
    obtain ⟨read, left⟩ := digitsOf_append (all _ h) (isDigit_of_ends ends)
    have some_digit : digits.isEmpty = false := by simpa using nonempty _ h
    cases negative <;>
      simp [exponentChars, scanExponent, scanSign, read, left, some_digit]

theorem head_exponentChars (n : Unsigned) {rest : List Char} (ends : Ends rest) :
    ∀ c ∈ (exponentChars n.exponent ++ rest).head?, c.isDigit = false ∧ c ≠ '.' := by
  intro c head
  cases h : n.exponent with
  | none =>
    rw [h] at head
    rcases ends c head with rfl | rfl | rfl <;> simp
  | some power =>
    rw [h] at head
    cases head
    simp

theorem scanFraction_eq (n : Unsigned) {rest : List Char}
    (stop : ∀ c ∈ rest.head?, c.isDigit = false ∧ c ≠ '.') :
    scanFraction (pointChars n.fraction ++ rest) = some (n.fraction, rest) := by
  have all := n.fraction_digits
  have nonempty := n.some_fraction
  cases h : n.fraction with
  | none =>
    cases rest with
    | nil => rfl
    | cons c rest =>
      have other := (stop c rfl).2
      unfold scanFraction
      split
      · rename_i same
        cases same
        exact absurd rfl other
      · rfl
  | some digits =>
    rw [h] at all nonempty
    obtain ⟨read, left⟩ := digitsOf_append all fun c head => (stop c head).1
    have some_digit : digits.isEmpty = false := by simpa using nonempty
    simp only [Option.getD_some] at read left
    simp [pointChars, scanFraction, read, left, some_digit]

theorem head_pointChars (n : Unsigned) {rest : List Char}
    (stop : ∀ c ∈ rest.head?, c.isDigit = false ∧ c ≠ '.') :
    ∀ c ∈ (pointChars n.fraction ++ rest).head?, c.isDigit = false := by
  intro c head
  cases h : n.fraction with
  | none =>
    rw [h] at head
    exact (stop c head).1
  | some digits =>
    rw [h] at head
    cases head
    rfl

theorem scanUnsigned_eq (n : Unsigned) (negative : Bool) {rest : List Char} (ends : Ends rest) :
    scanUnsigned negative (n.chars ++ rest)
      = (numberOf? negative n.whole n.fraction (n.exponent.map Prod.snd)
          (n.exponent.elim false Prod.fst)).map fun value => (value, rest) := by
  have stop := head_exponentChars n ends
  have parted : n.chars ++ rest
      = n.whole ++ (pointChars n.fraction ++ (exponentChars n.exponent ++ rest)) := by
    simp [Unsigned.chars, Double.Positional.chars]
  obtain ⟨read, left⟩ := digitsOf_append n.whole_digits (head_pointChars n stop)
  have allowed :
      (n.whole.isEmpty || (n.whole.head? == some '0' && n.whole.length != 1)) = false := by
    have some_whole := n.some_whole
    have no_zeros := n.no_zeros
    simp_all
  unfold scanUnsigned
  rw [parted, read, left]
  dsimp only
  rw [allowed, if_neg (by simp), scanFraction_eq n stop]
  simp only [Option.bind_eq_bind, Option.bind_some, scanExponent_eq n ends]
  cases numberOf? negative n.whole n.fraction (n.exponent.map Prod.snd)
    (n.exponent.elim false Prod.fst) <;> rfl

theorem numberOf?_parted {n : Unsigned} (negative : Bool)
    (parted : n.fraction ≠ none ∨ n.exponent ≠ none) :
    numberOf? negative n.whole n.fraction (n.exponent.map Prod.snd) (n.exponent.elim false Prod.fst)
      = if (Double.ofDecimal negative (naturalOf (n.whole ++ n.places))
            (n.power - n.places.length)).isInf then none
        else some (.real (Double.ofDecimal negative (naturalOf (n.whole ++ n.places))
            (n.power - n.places.length))) := by
  unfold numberOf? Unsigned.power Double.Positional.places
  cases fraction : n.fraction with
  | none =>
    cases exponent : n.exponent with
    | none => simp [fraction, exponent] at parted
    | some power => rfl
  | some digits =>
    cases exponent : n.exponent with
    | none => rfl
    | some power => rfl

/-- A number with a point or an exponent is read as the finite double in whose interval it lies. -/
theorem numberOf?_eq_real {n : Unsigned} {x : Float} (finite : x.isFinite = true)
    (parted : n.fraction ≠ none ∨ n.exponent ≠ none)
    (covers : (Double.interval x).Covers n.value) :
    numberOf? (Double.isNegative x) n.whole n.fraction (n.exponent.map Prod.snd)
      (n.exponent.elim false Prod.fst) = some (.real x) := by
  have exponent : -(n.power - n.places.length) = n.places.length - n.power := neg_sub _ _
  have nearest : Double.ofDecimal (Double.isNegative x) (naturalOf (n.whole ++ n.places))
      (n.power - n.places.length) = x := by
    refine Double.ofDecimal_eq finite ?_
    rw [exponent]
    exact covers
  rw [numberOf?_parted _ parted, nearest, (Double.isNaN_isInf_of_isFinite finite).2]
  rfl

theorem head_writeNatural {n : Nat} (positive : 0 < n) : (writeNatural n).head? ≠ some '0' := by
  induction n using Nat.strong_induction_on with
  | h n ih =>
    rw [writeNatural, Nat.toDigits_eq_if (by decide)]
    split
    · rename_i small
      interval_cases n <;> decide
    · rename_i large
      have first := ih (n / 10) (by omega) (by omega)
      rw [List.head?_append_of_ne_nil _ Nat.toDigits_ne_nil]
      exact first

section placed

open Double

def Unsigned.ofPositional (n : Positional) (no_zeros : n.whole.head? = some '0' → n.whole.length = 1) :
    Unsigned where
  toPositional := n
  exponent := none
  exponent_digits := nofun
  some_exponent := nofun
  no_zeros := no_zeros

theorem chars_ofPositional (n : Positional) (no_zeros : n.whole.head? = some '0' → n.whole.length = 1) :
    (Unsigned.ofPositional n no_zeros).chars = n.chars :=
  List.append_nil _

theorem value_ofPositional (n : Positional) (no_zeros : n.whole.head? = some '0' → n.whole.length = 1) :
    (Unsigned.ofPositional n no_zeros).value = n.value :=
  congrArg (quantity _) (sub_zero _)

variable {digits : List Char} (nonempty : digits ≠ []) (all : ∀ c ∈ digits, c.isDigit = true)

include nonempty all in
theorem exists_positional (leading : digits.head? ≠ some '0') (p : Int) :
    ∃ n : Unsigned, n.chars = placePoint true digits p ∧ n.fraction ≠ none ∧
      n.value = quantity (naturalOf digits) (digits.length - p) := by
  obtain ⟨n, chars, value, parted, begins⟩ := exists_placed nonempty all true p
  have no_zeros : n.whole.head? = some '0' → n.whole.length = 1 := by
    intro zero
    rcases begins with whole | same
    · rw [whole]
      rfl
    · exact absurd (same.symm.trans zero) leading
  exact ⟨.ofPositional n no_zeros, (chars_ofPositional n no_zeros).trans chars, parted rfl,
    (value_ofPositional n no_zeros).trans value⟩

include nonempty all in
theorem exists_exponential (p : Int) :
    ∃ n : Unsigned, n.chars = placeExponent digits p ∧ n.exponent ≠ none ∧
      n.value = quantity (naturalOf digits) (digits.length - p) := by
  obtain ⟨first, rest, rfl⟩ := List.exists_cons_of_ne_nil nonempty
  have places : (if rest.isEmpty then none else some rest).getD [] = rest := by
    cases rest <;> rfl
  let n : Unsigned :=
    { whole := [first]
      fraction := if rest.isEmpty then none else some rest
      exponent := some (p - 1 < 0, writeNatural (p - 1).natAbs)
      whole_digits := by simpa using all first List.mem_cons_self
      fraction_digits := fun c mem => all c (List.mem_cons_of_mem _ (places ▸ mem))
      exponent_digits := by
        rintro power ⟨⟩ c mem
        exact isDigit_of_mem_writeNatural mem
      some_whole := by simp
      some_fraction := by cases rest <;> simp
      some_exponent := by
        rintro power ⟨⟩
        exact writeNatural_ne_nil _
      no_zeros := fun _ => rfl }
  have power : n.power = p - 1 := by
    simp only [n, Unsigned.power, naturalOf_writeNatural, decide_eq_true_eq]
    split <;> omega
  refine ⟨n, ?_, Option.some_ne_none _, ?_⟩
  · have sign : (if p - 1 < 0 then ['e', '-'] else ['e', '+'])
        = ['e', if decide (p - 1 < 0) then '-' else '+'] := by
      split <;> simp_all
    unfold placeExponent
    dsimp only
    rw [sign]
    cases rest <;> simp [n, Unsigned.chars, Positional.chars, pointChars, exponentChars]
  · have digits : n.whole ++ n.places = first :: rest := congrArg (first :: ·) places
    have length : (n.places.length : Int) = (first :: rest).length - 1 := by
      rw [Positional.places, places, List.length_cons]
      push_cast
      ring
    rw [Unsigned.value, digits, length, power]
    congr 1
    ring

end placed

open Double in
/-- The magnitude of a finite double is written as a number in its interval, with a point or an
exponent. -/
theorem exists_unsigned_magnitude (x : Float) :
    ∃ n : Unsigned, n.chars = numbers.magnitude x ∧ (n.fraction ≠ none ∨ n.exponent ≠ none) ∧
      (interval x).Covers n.value := by
  by_cases zero : significand x = 0
  · let n : Positional := ⟨['0'], some ['0'], by simp, by simp, by simp, by simp⟩
    have none : n.value = quantity (interval x).value (interval x).places := by
      have value_zero : (interval x).value = 0 := by simp [interval, zero]
      have digits : n.value = quantity (naturalOf ['0', '0']) 1 := rfl
      rw [digits, value_zero, quantity, quantity]
      simp [naturalOf]
    refine ⟨.ofPositional n fun _ => rfl, ?_, .inl (Option.some_ne_none _), ?_⟩
    · rw [chars_ofPositional, Layout.magnitude, if_pos zero]
      rfl
    · rw [value_ofPositional, none]
      exact covers_value x
  · have nonempty := writeNatural_ne_nil (shortest .even x).significand
    have all : ∀ c ∈ writeNatural (shortest .even x).significand, c.isDigit = true :=
      fun _ mem => isDigit_of_mem_writeNatural mem
    have leading := head_writeNatural (significand_shortest_pos .even zero)
    have covered := covers_shortest .even x
    have place : -(shortest .even x).exponent
        = ((writeNatural (shortest .even x).significand).length : Int)
          - ((shortest .even x).exponent
            + (writeNatural (shortest .even x).significand).length) := by
      ring
    rw [place] at covered
    rw [Layout.magnitude, if_neg zero]
    dsimp only
    split
    · obtain ⟨n, chars, parted, value⟩ := exists_positional nonempty all leading
        ((shortest .even x).exponent + (writeNatural (shortest .even x).significand).length)
      rw [naturalOf_writeNatural] at value
      exact ⟨n, chars, .inl parted, value ▸ covered⟩
    · obtain ⟨n, chars, parted, value⟩ := exists_exponential nonempty all
        ((shortest .even x).exponent + (writeNatural (shortest .even x).significand).length)
      rw [naturalOf_writeNatural] at value
      exact ⟨n, chars, .inr parted, value ▸ covered⟩

/-- What is read from its own text: a whole number in a machine word, or a finite double. -/
def Fits : Number → Prop
  | .integer n => -2 ^ 63 ≤ n ∧ n < 2 ^ 64
  | .real x => x.isFinite = true

theorem scanNumber_signed (n : Unsigned) (negative : Bool) {rest : List Char} (ends : Ends rest) :
    scanNumber ((if negative then ['-'] else []) ++ n.chars ++ rest)
      = (numberOf? negative n.whole n.fraction (n.exponent.map Prod.snd)
          (n.exponent.elim false Prod.fst)).map fun value => (value, rest) := by
  rw [← scanUnsigned_eq n negative ends]
  cases negative with
  | true => rfl
  | false =>
    obtain ⟨first, later, whole⟩ := List.exists_cons_of_ne_nil n.some_whole
    have digit : first.isDigit = true := n.whole_digits first (by simp [whole])
    have other : first ≠ '-' := ne_of_isDigit digit rfl
    have begins : ∃ tail, n.chars ++ rest = first :: tail := by
      simp [Unsigned.chars, Double.Positional.chars, whole]
    obtain ⟨tail, begins⟩ := begins
    simp only [Bool.false_eq_true, if_false, List.nil_append, begins]
    unfold scanNumber
    split
    · rename_i same
      cases same
      exact absurd rfl other
    · rfl

theorem isDigit_of_mem_none : ∀ c ∈ (none : Option (List Char)).getD [], c.isDigit = true :=
  nofun

def Unsigned.ofNatural (n : Nat) : Unsigned :=
  .ofPositional ⟨writeNatural n, none, fun _ mem => isDigit_of_mem_writeNatural mem,
    isDigit_of_mem_none, writeNatural_ne_nil n, nofun⟩ fun zero => by
      by_cases positive : 0 < n
      · exact absurd zero (head_writeNatural positive)
      · obtain rfl : n = 0 := by omega
        rfl

theorem chars_ofNatural (n : Nat) : (Unsigned.ofNatural n).chars = writeNatural n :=
  (chars_ofPositional _ _).trans (List.append_nil _)

theorem numberOf?_whole {n : Int} (low : -2 ^ 63 ≤ n) (high : n < 2 ^ 64) :
    numberOf? (decide (n < 0)) (writeNatural n.natAbs) none none false = some (.integer n) := by
  have powers : Nat.pow 2 63 = 2 ^ 63 ∧ Nat.pow 2 64 = 2 ^ 64 := ⟨rfl, rfl⟩
  unfold numberOf?
  simp only [naturalOf_writeNatural, powers]
  by_cases negative : n < 0
  · have same : -(n.natAbs : Int) = n := by omega
    rw [if_pos (decide_eq_true negative), if_neg (by omega), same]
  · have same : (n.natAbs : Int) = n := by omega
    rw [if_neg (by simpa using negative), if_pos (by omega), same]

theorem exists_unsigned_writeNumber {value : Number} (fits : Fits value) :
    ∃ (n : Unsigned) (negative : Bool),
      (writeNumber value).toList = (if negative then ['-'] else []) ++ n.chars ∧
        numberOf? negative n.whole n.fraction (n.exponent.map Prod.snd)
          (n.exponent.elim false Prod.fst) = some value := by
  cases value with
  | integer n =>
    obtain ⟨low, high⟩ : -2 ^ 63 ≤ n ∧ n < 2 ^ 64 := fits
    refine ⟨.ofNatural n.natAbs, decide (n < 0), ?_, numberOf?_whole low high⟩
    rw [writeNumber, String.toList_ofList, writeInteger, chars_ofNatural]
    by_cases negative : n < 0 <;> simp [negative]
  | real x =>
    obtain ⟨n, chars, parted, covers⟩ := exists_unsigned_magnitude x
    refine ⟨n, Double.isNegative x, ?_, numberOf?_eq_real fits parted covers⟩
    rw [writeNumber, Double.Layout.write, String.toList_ofList, chars]

theorem scanNumber_writeNumber {value : Number} (fits : Fits value) {rest : List Char}
    (ends : Ends rest) :
    scanNumber ((writeNumber value).toList ++ rest) = some (value, rest) := by
  obtain ⟨n, negative, written, stands⟩ := exists_unsigned_writeNumber fits
  rw [written, scanNumber_signed n negative ends, stands]
  rfl

theorem exists_head_writeNumber {value : Number} (fits : Fits value) :
    ∃ c later, (writeNumber value).toList = c :: later ∧ (c = '-' ∨ c.isDigit = true) := by
  obtain ⟨n, negative, written, -⟩ := exists_unsigned_writeNumber fits
  obtain ⟨first, later, whole⟩ := List.exists_cons_of_ne_nil n.some_whole
  have digit : first.isDigit = true := n.whole_digits first (by simp [whole])
  cases negative with
  | true => exact ⟨'-', n.chars, written, .inl rfl⟩
  | false =>
    refine ⟨first, later ++ pointChars n.fraction ++ exponentChars n.exponent, ?_, .inr digit⟩
    rw [written, Unsigned.chars, Double.Positional.chars, whole]
    rfl

end FormulaTree.Json
