import FormulaTree.Proofs.Decimal.Spelling
import FormulaTree.Proofs.Double.Equality
import FormulaTree.Value.Truth

set_option autoImplicit false

namespace FormulaTree.Value

open Decimal (Literal quantity ofParts)
open Double (IsZero)

def IsVoid (x : Float) : Prop :=
  IsZero x ∨ x.isNaN = true

/-- The outcomes that are false, where `nothing` says which parts of a complex number and which
magnitudes count for nothing. -/
inductive IsFalse (nothing : Float → Prop) : Option Value → Prop
  | absent : IsFalse nothing none
  | null : IsFalse nothing (some .null)
  | bool : IsFalse nothing (some (.bool false))
  | number {x : Float} (void : IsVoid x) : IsFalse nothing (some (.number x))
  | string : IsFalse nothing (some (.string ""))
  | decimal {d : Decimal} (zero : d.value = 0) : IsFalse nothing (some (.decimal d))
  | complex {re im : Float} (hre : nothing re) (him : nothing im) :
      IsFalse nothing (some (.complex re im))
  | bareUnit (name : String) : IsFalse nothing (some (.unit none name))
  | unit {x : Float} (hx : nothing x) (name : String) : IsFalse nothing (some (.unit (some x) name))

def parts : Value → List Float
  | .complex re im => [re, im]
  | .unit magnitude _ => magnitude.toList
  | _ => []

def containers : List Kind :=
  [.matrix, .object, .resultSet]

theorem numberTruth_eq_false_iff {x : Float} : numberTruth x = false ↔ IsVoid x := by
  rw [numberTruth, bne, Bool.and_eq_false_iff, Bool.not_eq_false', Bool.not_eq_false',
    Double.beq_zero_iff, IsVoid]

theorem isVoid_iff_isZero {x : Float} (number : x.isNaN = false) : IsVoid x ↔ IsZero x := by
  rw [IsVoid, number, or_iff_left Bool.false_ne_true]

theorem isZero_iff_value_eq_zero {d : Decimal} : d.isZero = true ↔ d.value = 0 := by
  have power : (10 : Rat) ^ (-d.scale.toInt) ≠ 0 := zpow_ne_zero _ (by norm_num)
  rw [Decimal.isZero, decide_eq_true_iff, Decimal.value, quantity, mul_eq_zero, or_iff_left power,
    Int.cast_eq_zero]

theorem truth_eq_error_iff {value : Value} {e : Error} :
    value.truth = .error e ↔ value.kind ∈ containers ∧ e = .noTruthValue value.kind := by
  cases value with
  | unit magnitude name => cases magnitude <;> simp [truth, kind, containers]
  | matrix | object | resultSet => simp [truth, kind, containers, eq_comm]
  | _ => simp [truth, kind, containers]

theorem truth_eq_false_iff {value : Value} :
    value.truth = .ok false ↔ IsFalse IsVoid (some value) := by
  constructor
  · intro h
    cases value with
    | null => exact .null
    | bool b =>
      obtain rfl : b = false := by simpa [truth] using h
      exact .bool
    | number x => exact .number (numberTruth_eq_false_iff.1 (by simpa [truth] using h))
    | string text =>
      obtain rfl : text = "" := by simpa [truth] using h
      exact .string
    | decimal d => exact .decimal (isZero_iff_value_eq_zero.1 (by simpa [truth] using h))
    | complex re im =>
      have both : numberTruth re = false ∧ numberTruth im = false := by simpa [truth] using h
      exact .complex (numberTruth_eq_false_iff.1 both.1) (numberTruth_eq_false_iff.1 both.2)
    | unit magnitude name =>
      cases magnitude with
      | none => exact .bareUnit name
      | some x => exact .unit (numberTruth_eq_false_iff.1 (by simpa [truth] using h)) name
    | matrix | object | resultSet => cases h
  · rintro (_ | _ | _ | void | _ | zero | ⟨hre, him⟩ | _ | ⟨hx, _⟩)
    · rfl
    · rfl
    · simp [truth, numberTruth_eq_false_iff.2 void]
    · rfl
    · simp [truth, isZero_iff_value_eq_zero.2 zero]
    · simp [truth, numberTruth_eq_false_iff.2 hre, numberTruth_eq_false_iff.2 him]
    · rfl
    · simp [truth, numberTruth_eq_false_iff.2 hx]

theorem outcomeTruth_eq_false_iff {outcome : Option Value} :
    outcomeTruth outcome = .ok false ↔ IsFalse IsVoid outcome := by
  cases outcome with
  | none => exact ⟨fun _ => .absent, fun _ => rfl⟩
  | some value => exact truth_eq_false_iff

theorem outcomeTruth_eq_error_iff {outcome : Option Value} {e : Error} :
    outcomeTruth outcome = .error e ↔
      ∃ value, outcome = some value ∧ value.kind ∈ containers ∧ e = .noTruthValue value.kind := by
  cases outcome with
  | none => simp [outcomeTruth]
  | some value => simpa [outcomeTruth] using truth_eq_error_iff

/-- What is neither false nor a container is true. -/
theorem outcomeTruth_eq_true_iff {outcome : Option Value} :
    outcomeTruth outcome = .ok true ↔ ¬ outcomeTruth outcome = .ok false ∧
      ∀ value, outcome = some value → value.kind ∉ containers := by
  cases result : outcomeTruth outcome with
  | error e =>
    obtain ⟨value, same, mem, -⟩ := outcomeTruth_eq_error_iff.1 result
    simp [same, mem]
  | ok truth =>
    have plain : ∀ value, outcome = some value → value.kind ∉ containers := by
      intro value same mem
      rw [outcomeTruth_eq_error_iff.2 ⟨value, same, mem, rfl⟩] at result
      cases result
    cases truth with
    | false => simp
    | true => simpa using plain

theorem IsFalse.mono {nothing nothing' : Float → Prop} {outcome : Option Value}
    (h : IsFalse nothing outcome)
    (imp : ∀ value, outcome = some value → ∀ x ∈ value.parts, nothing x → nothing' x) :
    IsFalse nothing' outcome := by
  cases h with
  | absent => exact .absent
  | null => exact .null
  | bool => exact .bool
  | number void => exact .number void
  | string => exact .string
  | decimal zero => exact .decimal zero
  | complex hre him =>
    have part := imp _ rfl
    exact .complex (part _ (by simp [parts]) hre) (part _ (by simp [parts]) him)
  | bareUnit name => exact .bareUnit name
  | unit hx name => exact .unit (imp _ rfl _ (by simp [parts]) hx) name

theorem isFalse_isVoid_iff {outcome : Option Value}
    (numeric : ∀ value, outcome = some value → ∀ x ∈ value.parts, x.isNaN = false) :
    IsFalse IsVoid outcome ↔ IsFalse IsZero outcome := by
  constructor
  · intro h
    exact h.mono fun value same x mem => (isVoid_iff_isZero (numeric value same x mem)).1
  · intro h
    exact h.mono fun _ _ _ _ => .inl

theorem truth_decimal_eq_false_iff {d : Decimal} :
    (decimal d).truth = .ok false ↔ d.value = 0 := by
  rw [← isZero_iff_value_eq_zero]
  simp [truth]

/-- Every outcome has its truth value from the table: what is listed there is false, the containers
have none and are named by the error, and all else is true. Where no part of a complex number and no
magnitude is NaN, the doubles that count for nothing there are the zeros. -/
theorem truth_by_table (outcome : Option Value) :
    (outcomeTruth outcome = .ok false ↔ IsFalse IsVoid outcome) ∧
    ((∀ value, outcome = some value → ∀ x ∈ value.parts, x.isNaN = false) →
      (outcomeTruth outcome = .ok false ↔ IsFalse IsZero outcome)) ∧
    (∀ e, outcomeTruth outcome = .error e ↔
      ∃ value, outcome = some value ∧ value.kind ∈ containers ∧ e = .noTruthValue value.kind) ∧
    (outcomeTruth outcome = .ok true ↔
      ¬ IsFalse IsVoid outcome ∧ ∀ value, outcome = some value → value.kind ∉ containers) ∧
    (∀ (m : Int) (s : Int64), (decimal (ofParts m s)).truth = .ok false ↔ quantity m s.toInt = 0) ∧
    ∀ (l : Literal) (text : String) (d : Decimal), l.WrittenIn text → decimalOfText text = .ok d →
      ((decimal d).truth = .ok false ↔ l.number = 0) := by
  refine ⟨outcomeTruth_eq_false_iff, fun numeric => ?_, fun e => outcomeTruth_eq_error_iff, ?_,
    fun m s => ?_, fun l text d written read => ?_⟩
  · rw [outcomeTruth_eq_false_iff, isFalse_isVoid_iff numeric]
  · rw [outcomeTruth_eq_true_iff, outcomeTruth_eq_false_iff]
  · rw [truth_decimal_eq_false_iff, Decimal.value_ofParts]
  · obtain ⟨fits, rfl⟩ := Decimal.fits_of_decimalOfText written read
    rw [truth_decimal_eq_false_iff, Literal.value_decimal fits.2]

/-- Both parts are zero, of different signs. -/
theorem truth_by_table_zeros :
    (∀ value, some (complex (-0.0) 0.0) = some value → ∀ x ∈ value.parts, x.isNaN = false) ∧
      outcomeTruth (some (complex (-0.0) 0.0)) = .ok false := by
  have numeric : ∀ value, some (complex (-0.0) 0.0) = some value →
      ∀ x ∈ value.parts, x.isNaN = false := by
    rintro value ⟨⟩ x mem
    simp only [parts, List.mem_cons, List.not_mem_nil, or_false] at mem
    rcases mem with rfl | rfl <;> decide
  exact ⟨numeric, ((truth_by_table _).2.1 numeric).2 (.complex (.inr rfl) (.inl rfl))⟩

/-- NaN is no zero, but a complex number or a unit that has nothing besides it is false. -/
theorem nan_counts_for_nothing :
    outcomeTruth (some (complex (0.0 / 0.0) 0.0)) = .ok false ∧
      outcomeTruth (some (unit (some (0.0 / 0.0)) "cm")) = .ok false ∧
      ¬ IsFalse IsZero (some (complex (0.0 / 0.0) 0.0)) ∧
      ¬ IsFalse IsZero (some (unit (some (0.0 / 0.0)) "cm")) := by
  have nonzero : ¬ IsZero (0.0 / 0.0) :=
    fun zero => absurd (Double.isNaN_of_isZero zero) (by decide)
  refine ⟨by decide, by decide, ?_, ?_⟩
  · rintro (_ | _)
    contradiction
  · rintro (_ | _)
    contradiction

end FormulaTree.Value
