import FormulaTree.Decimal.Literal
import FormulaTree.Proofs.Text.Numeral
import Mathlib.Algebra.Group.Int.Defs

set_option autoImplicit false

namespace FormulaTree.Decimal

open Text

theorem inWord_iff {bits : Nat} {n : Int} :
    inWord bits n = true ↔ -2 ^ (bits - 1) ≤ n ∧ n < 2 ^ (bits - 1) := by
  rw [inWord, Bool.and_eq_true, decide_eq_true_iff, decide_eq_true_iff]
  rfl

structure Power where
  mark : Char
  sign : Sign
  digits : List Char
  mark_eq : mark = 'e' ∨ mark = 'E'
  nonempty : digits ≠ []
  all_digits : ∀ c ∈ digits, c.isDigit = true

namespace Power

theorem lower_mark : 'e' = 'e' ∨ 'e' = 'E' :=
  .inl rfl

def chars (power : Power) : List Char :=
  power.mark :: (power.sign.chars ++ power.digits)

def exponent (power : Power) : Int :=
  power.sign.apply (naturalOf power.digits)

end Power

/-- A literal has a digit before or after its point, or digits and no point. -/
structure Literal where
  sign : Sign
  whole : List Char
  fraction : Option (List Char)
  power : Option Power
  whole_digits : ∀ c ∈ whole, c.isDigit = true
  fraction_digits : ∀ c ∈ fraction.getD [], c.isDigit = true
  some_digit : whole ++ fraction.getD [] ≠ []

def pointChars : Option (List Char) → List Char
  | none => []
  | some fraction => '.' :: fraction

def powerChars : Option Power → List Char
  | none => []
  | some power => power.chars

namespace Literal

def unsigned (l : Literal) : List Char :=
  l.whole ++ pointChars l.fraction

def chars (l : Literal) : List Char :=
  l.sign.chars ++ l.unsigned ++ powerChars l.power

def places (l : Literal) : List Char :=
  l.fraction.getD []

def exponent (l : Literal) : Int :=
  match l.power with
  | none => 0
  | some power => power.exponent

def mantissa (l : Literal) : Int :=
  l.sign.apply (naturalOf (l.whole ++ l.places))

/-- How many digits stand after the point once the exponent has moved it. -/
def scale (l : Literal) : Int :=
  l.places.length - l.exponent

/-- The text is the literal, perhaps with blanks around it. -/
def WrittenIn (l : Literal) (text : String) : Prop :=
  ∃ before after, (∀ c ∈ before ++ after, isBlank c = true) ∧
    text.toList = before ++ l.chars ++ after

end Literal

theorem head_powerChars {power : Option Power} :
    ∀ c ∈ (powerChars power).head?, (!isExponentMark c) = false := by
  intro c head
  cases power with
  | none => cases head
  | some power =>
    cases head
    rcases power.mark_eq with mark | mark <;> rw [mark] <;> rfl

theorem head_pointChars {fraction : Option (List Char)} :
    ∀ c ∈ (pointChars fraction).head?, (c != '.') = false := by
  cases fraction <;> simp [pointChars]

theorem drop_pointChars (fraction : Option (List Char)) :
    (pointChars fraction).drop 1 = fraction.getD [] := by
  cases fraction <;> rfl

namespace Literal

theorem exponent?_powerChars (l : Literal) :
    exponent? (powerChars l.power) = if inWord 128 l.exponent then some l.exponent else none := by
  unfold exponent
  cases l.power with
  | none => rfl
  | some power =>
    have read := integer?_signed power.sign power.nonempty power.all_digits
    change (integer? (power.sign.chars ++ power.digits)).filter (inWord 128) = _
    rw [read]
    rfl

theorem isDigit_of_mem_number {l : Literal} {c : Char} (h : c ∈ l.whole ++ l.places) :
    c.isDigit = true := by
  rcases List.mem_append.1 h with mem | mem
  · exact l.whole_digits c mem
  · exact l.fraction_digits c mem

theorem natural?_number (l : Literal) :
    natural? (l.whole ++ l.places) = some (naturalOf (l.whole ++ l.places)) :=
  natural?_eq l.some_digit fun _ mem => isDigit_of_mem_number mem

theorem mem_unsigned {l : Literal} {c : Char} (h : c ∈ l.unsigned) :
    c = '.' ∨ c.isDigit = true := by
  rcases List.mem_append.1 h with mem | mem
  · exact .inr (l.whole_digits c mem)
  · have digits := l.fraction_digits c
    cases fraction : l.fraction with
    | none =>
      rw [fraction] at mem
      cases mem
    | some fraction =>
      simp_all only [pointChars, List.mem_cons]
      exact mem.imp_right digits

theorem splitSign_signed (l : Literal) :
    splitSign (l.sign.chars ++ l.unsigned) = (decide (l.sign = .minus), l.unsigned) := by
  cases sign : l.sign with
  | minus => rfl
  | plus => rfl
  | none =>
    have first (c : Char) (rest : List Char) (same : l.unsigned = c :: rest) :
        c = '.' ∨ c.isDigit = true := mem_unsigned (same ▸ List.mem_cons_self)
    rw [Sign.chars, List.nil_append]
    unfold splitSign
    split
    · rename_i rest same
      exact absurd (first '-' rest same) (by decide)
    · rename_i rest same
      exact absurd (first '+' rest same) (by decide)
    · rfl

theorem no_mark {l : Literal} :
    ∀ c ∈ l.sign.chars ++ l.unsigned, (!isExponentMark c) = true := by
  intro c mem
  rcases List.mem_append.1 mem with mem | mem
  · cases sign : l.sign <;> simp_all [Sign.chars, isExponentMark]
  · rcases mem_unsigned mem with rfl | digit
    · rfl
    · simp [isExponentMark, ne_of_isDigit digit]

theorem mem_chars {l : Literal} {c : Char} (h : c ∈ l.chars) :
    c ∈ ['+', '-', '.', 'e', 'E'] ∨ c.isDigit = true := by
  have sign_mem {sign : Sign} (mem : c ∈ sign.chars) : c ∈ ['+', '-', '.', 'e', 'E'] := by
    rcases Sign.mem_chars mem with rfl | rfl <;> decide
  rcases List.mem_append.1 h with mem | mem
  · rcases List.mem_append.1 mem with mem | mem
    · exact .inl (sign_mem mem)
    · rcases mem_unsigned mem with rfl | digit
      · exact .inl (by decide)
      · exact .inr digit
  · cases same : l.power with
    | none =>
      rw [same] at mem
      cases mem
    | some power =>
      rw [same] at mem
      rcases List.mem_cons.1 mem with rfl | mem
      · rcases power.mark_eq with mark | mark <;> exact .inl (by simp [mark])
      · rcases List.mem_append.1 mem with mem | mem
        · exact .inl (sign_mem mem)
        · exact .inr (power.all_digits c mem)

theorem no_blank {l : Literal} : ∀ c ∈ l.chars, isBlank c = false := by
  intro c mem
  rcases mem_chars mem with sign | digit
  · simp only [List.mem_cons, List.not_mem_nil, or_false] at sign
    rcases sign with rfl | rfl | rfl | rfl | rfl <;> rfl
  · exact isBlank_of_isDigit digit

theorem chars_ne_nil (l : Literal) : l.chars ≠ [] := by
  intro empty
  have digits : l.whole ++ l.places ≠ [] := l.some_digit
  have none : l.unsigned = [] := by
    rw [chars, List.append_eq_nil_iff, List.append_eq_nil_iff] at empty
    exact empty.1.2
  rw [unsigned, List.append_eq_nil_iff] at none
  rw [none.1, places, ← drop_pointChars, none.2] at digits
  exact digits rfl

theorem span_unsigned (l : Literal) :
    l.unsigned.span (· != '.') = (l.whole, pointChars l.fraction) := by
  refine span_append (fun c mem => ?_) head_pointChars
  simpa using ne_of_isDigit (l.whole_digits c mem) rfl

theorem ofLiteral?_of_written {l : Literal} {text : String} (written : l.WrittenIn text) :
    ofLiteral? text
      = if inWord 128 l.exponent ∧ inWord 64 l.scale then
          some (ofParts l.mantissa (Int64.ofInt l.scale))
        else none := by
  obtain ⟨before, after, blank, same⟩ := written
  have read := l.natural?_number
  unfold places at read
  unfold ofLiteral?
  rw [same, trim_padded blank l.chars_ne_nil no_blank, chars, span_append no_mark head_powerChars]
  simp only [splitSign_signed, span_unsigned, drop_pointChars, read, exponent?_powerChars]
  by_cases small : inWord 128 l.exponent = true
  · simp [small, scale, mantissa, Sign.apply, places]
  · simp [small]

end Literal

theorem exists_power {row : List Char} {e : Int} (read : exponent? row = some e)
    (begins : ∀ c ∈ row.head?, (!isExponentMark c) = false) :
    ∃ power : Option Power, row = powerChars power := by
  cases row with
  | nil => exact ⟨none, rfl⟩
  | cons mark rest =>
    obtain ⟨number, -⟩ := Option.filter_eq_some_iff.1 read
    obtain ⟨sign, digits, rfl, nonempty, all, -⟩ := exists_signed number
    have letter : mark = 'e' ∨ mark = 'E' := by
      simpa [isExponentMark, or_iff_not_imp_left] using begins mark rfl
    exact ⟨some ⟨mark, sign, digits, letter, nonempty, all⟩, rfl⟩

theorem exists_sign (row : List Char) : ∃ sign : Sign, row = sign.chars ++ (splitSign row).2 := by
  unfold splitSign
  split
  · exact ⟨.minus, rfl⟩
  · exact ⟨.plus, rfl⟩
  · exact ⟨.none, rfl⟩

theorem exists_fraction (row : List Char) :
    ∃ fraction : Option (List Char), (row.span (· != '.')).2 = pointChars fraction := by
  cases rest : (row.span (· != '.')).2 with
  | nil => exact ⟨none, rfl⟩
  | cons c fraction =>
    have point : (c != '.') = false := head_span (p := (· != '.')) c (by rw [rest]; rfl)
    exact ⟨some fraction, by simpa [pointChars] using point⟩

/-- A text that is read as a decimal is a literal with blanks around it. -/
theorem exists_literal {text : String} {d : Decimal} (h : ofLiteral? text = some d) :
    ∃ l : Literal, l.WrittenIn text := by
  unfold ofLiteral? at h
  simp only [Option.bind_eq_bind, Option.bind_eq_some_iff] at h
  obtain ⟨e, exponent, n, number, -⟩ := h
  obtain ⟨power, power_eq⟩ := exists_power exponent head_span
  obtain ⟨sign, sign_eq⟩ := exists_sign ((trim text.toList).span (!isExponentMark ·)).1
  generalize unsigned_eq : (splitSign ((trim text.toList).span (!isExponentMark ·)).1).2 = unsigned
    at number sign_eq
  obtain ⟨fraction, fraction_eq⟩ := exists_fraction unsigned
  rw [fraction_eq, drop_pointChars] at number
  obtain ⟨nonempty, digits, -⟩ := natural?_eq_some_iff.1 number
  obtain ⟨before, after, blank, same⟩ := exists_padding text.toList
  refine ⟨⟨sign, (unsigned.span (· != '.')).1, fraction, power,
    fun c mem => digits c (List.mem_append_left _ mem),
    fun c mem => digits c (List.mem_append_right _ mem), nonempty⟩, before, after, blank, ?_⟩
  have whole : (unsigned.span (· != '.')).1 ++ pointChars fraction = unsigned := by
    rw [← fraction_eq, span_join]
  rw [same]
  congr 2
  simp only [Literal.chars, Literal.unsigned, whole, ← sign_eq, ← power_eq, span_join]

end FormulaTree.Decimal
