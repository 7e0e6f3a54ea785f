import FormulaTree.Proofs.Evaluation.Library
import FormulaTree.Proofs.Formula.Equality
import FormulaTree.Proofs.Value.Truth

set_option autoImplicit false

namespace FormulaTree

namespace Value

theorem numberTruth_congr {x y : Float} (h : (x == y) = true) : numberTruth x = numberTruth y := by
  have turned : (y == x) = true := by rwa [Double.beq_comm]
  have zero : (x == 0.0) = (y == 0.0) :=
    Bool.eq_iff_iff.2 ⟨Double.beq_trans turned, Double.beq_trans h⟩
  rw [numberTruth, numberTruth, bne, bne, zero, Double.isNaN_of_beq h, Double.isNaN_of_beq turned]

theorem truth_eq_of_equal {a b : Value} (h : a.equal b = true) : a.truth = b.truth := by
  cases a with
  | null | bool | string | decimal => cases b <;> simp_all [equal]
  | number x =>
    obtain ⟨y, rfl, same⟩ := number_equal_iff.1 h
    rw [truth, truth, numberTruth_congr same]
  | complex re im =>
    obtain ⟨re', im', rfl, hre, him⟩ := complex_equal_iff.1 h
    rw [truth, truth, numberTruth_congr hre, numberTruth_congr him]
  | unit magnitude name =>
    obtain ⟨magnitude', rfl, same⟩ := unit_equal_iff.1 h
    cases magnitude with
    | none =>
      cases magnitude' with
      | none => rfl
      | some y => cases same
    | some x =>
      cases magnitude' with
      | none => cases same
      | some y => rw [truth, truth, numberTruth_congr same]
  | matrix items =>
    obtain ⟨others, rfl, -⟩ := matrix_equal_iff.1 h
    rfl
  | object entries =>
    obtain ⟨others, rfl, -⟩ := object_equal_iff.1 h
    rfl
  | resultSet items =>
    obtain ⟨others, rfl, -⟩ := resultSet_equal_iff.1 h
    rfl

theorem truth_of_toNumber {a : Value} {x : Float} (h : a.toNumber = .ok x) :
    a.truth = .ok (numberTruth x) := by
  cases a with
  | number y =>
    cases h
    rfl
  | bool b =>
    cases h
    cases b <;> decide
  | _ => cases h

theorem toNumber_of_equal {a b : Value} (h : a.equal b = true) :
    (∃ x y, a.toNumber = .ok x ∧ b.toNumber = .ok y ∧ (x == y) = true) ∨
      ∃ e e', a.toNumber = .error e ∧ b.toNumber = .error e' := by
  cases a with
  | number x =>
    obtain ⟨y, rfl, same⟩ := number_equal_iff.1 h
    exact .inl ⟨x, y, rfl, rfl, same⟩
  | bool p =>
    cases b with
    | bool q =>
      obtain rfl : p = q := by simpa [equal] using h
      exact .inl ⟨ofBit p, ofBit p, rfl, rfl, by cases p <;> decide⟩
    | _ => cases h
  | _ =>
    cases b with
    | number | bool => cases h
    | _ => exact .inr ⟨_, _, rfl, rfl⟩

end Value

namespace Prelude

open Value (Keyed)

/-- Either both values have a number, and the numbers are equal, or neither has and the values are
equal themselves. -/
theorem looseEqual_iff {a b : Value} : looseEqual a b = true ↔
    (∃ x y, a.toNumber = .ok x ∧ b.toNumber = .ok y ∧ (x == y) = true) ∨
      (∃ e e', a.toNumber = .error e ∧ b.toNumber = .error e') ∧ a.equal b = true := by
  constructor
  · intro h
    unfold looseEqual at h
    split at h
    · rename_i x y hx hy
      exact .inl ⟨x, y, hx, hy, h⟩
    · exact (Value.toNumber_of_equal h).imp_right fun none => ⟨none, h⟩
  · rintro (⟨x, y, hx, hy, same⟩ | ⟨⟨e, e', hx, hy⟩, same⟩)
    · rw [looseEqual, hx, hy]
      exact same
    · rw [looseEqual, hx]
      exact same

theorem looseEqual_symm {a b : Value} (ha : a.Keyed) (hb : b.Keyed) (h : looseEqual a b = true) :
    looseEqual b a = true := by
  rw [looseEqual_iff] at h ⊢
  rcases h with ⟨x, y, hx, hy, same⟩ | ⟨⟨e, e', hx, hy⟩, same⟩
  · exact .inl ⟨y, x, hy, hx, by rwa [Double.beq_comm]⟩
  · exact .inr ⟨⟨e', e, hy, hx⟩, Value.equal_symm ha hb same⟩

theorem looseEqual_trans {a b c : Value} (h : looseEqual a b = true) (h' : looseEqual b c = true) :
    looseEqual a c = true := by
  rw [looseEqual_iff] at h h' ⊢
  rcases h with ⟨x, y, hx, hy, same⟩ | ⟨⟨e, e', hx, hy⟩, same⟩
  · rcases h' with ⟨y', z, hy', hz, same'⟩ | ⟨⟨e, e', hy', -⟩, -⟩
    · obtain rfl : y = y' := Except.ok.inj (hy.symm.trans hy')
      exact .inl ⟨x, z, hx, hz, Double.beq_trans same same'⟩
    · exact nomatch hy.symm.trans hy'
  · rcases h' with ⟨y, z, hy', -, -⟩ | ⟨⟨-, e, -, hz⟩, same'⟩
    · exact nomatch hy.symm.trans hy'
    · exact .inr ⟨⟨_, _, hx, hz⟩, Value.equal_trans same same'⟩

theorem truth_eq_of_looseEqual {a b : Value} (h : looseEqual a b = true) : a.truth = b.truth := by
  rcases looseEqual_iff.1 h with ⟨x, y, hx, hy, same⟩ | ⟨-, same⟩
  · rw [Value.truth_of_toNumber hx, Value.truth_of_toNumber hy, Value.numberTruth_congr same]
  · exact Value.truth_eq_of_equal same

/-- The laws of a function that compares two values and of the one that is its negation. -/
structure Compares (equal unequal : Builtin) : Prop where
  negation : ∀ a b, ∃ same : Bool,
    equal.call [a, b] = .ok (.bool same) ∧ unequal.call [a, b] = .ok (.bool (!same))
  symm : ∀ a b, a.Keyed → b.Keyed → equal.call [a, b] = equal.call [b, a]
  trans : ∀ a b c, equal.call [a, b] = .ok (.bool true) → equal.call [b, c] = .ok (.bool true) →
    equal.call [a, c] = .ok (.bool true)
  truth : ∀ a b, equal.call [a, b] = .ok (.bool true) → a.truth = b.truth

theorem call_equality (name : String) (expected : Bool) (a b : Value) :
    (equality name expected).call [a, b] = .ok (.bool (looseEqual a b == expected)) :=
  rfl

theorem call_equal_iff {a b : Value} :
    (equality "equal" true).call [a, b] = .ok (.bool true) ↔ looseEqual a b = true := by
  simp [call_equality]

theorem compares_equality : Compares (equality "equal" true) (equality "unequal" false) where
  negation a b := ⟨looseEqual a b, by simp [call_equality], by simp [call_equality]⟩
  symm a b ha hb := by
    have same : looseEqual a b = looseEqual b a :=
      Bool.eq_iff_iff.2 ⟨looseEqual_symm ha hb, looseEqual_symm hb ha⟩
    rw [call_equality, call_equality, same]
  trans a b c h h' := by
    rw [call_equal_iff] at h h' ⊢
    exact looseEqual_trans h h'
  truth a b h := truth_eq_of_looseEqual (call_equal_iff.1 h)

end Prelude

/-- Equality of values and equality of formulas are symmetric and transitive, and what is equal to
itself is what has no NaN. Comparing by the prelude is symmetric and transitive too, and what
compares as equal has the same truth value. -/
theorem equality_laws :
    PartialEquality Value.Keyed Value.equal Value.hasNaN ∧
      PartialEquality Formula.Obtainable Formula.equal Formula.hasNaN ∧
      ∀ library : Library, ∃ equal unequal,
        library.loadPrelude.function? "equal" = some equal ∧
        library.loadPrelude.function? "unequal" = some unequal ∧
        Prelude.Compares equal unequal := by
  refine ⟨Value.partialEquality_equal, Formula.partialEquality_equal, fun library => ?_⟩
  have equal := library.function?_loadPrelude (f := Prelude.equality "equal" true)
    (by simp [Prelude.functions])
  have unequal := library.function?_loadPrelude (f := Prelude.equality "unequal" false)
    (by simp [Prelude.functions])
  exact ⟨_, _, equal, unequal, Prelude.compares_equality⟩

/-- Two objects that differ in the order of their keys and in the sign of a zero. -/
theorem equality_laws_disordered :
    ∃ a b : Value, a = .object [("x", .number 0.0), ("y", .matrix [.null])] ∧
      b = .object [("y", .matrix [.null]), ("x", .number (-0.0))] ∧ a.Keyed ∧ b.Keyed ∧
      a.hasNaN = false ∧ a.equal b = true ∧ b.equal a = true ∧ a.equal a = true := by
  have left : Value.Keyed (.object [("x", .number 0.0), ("y", .matrix [.null])]) := by
    simp [Value.Keyed, Value.EntriesKeyed, Value.AllKeyed, Bindings.names]
  have right : Value.Keyed (.object [("y", .matrix [.null]), ("x", .number (-0.0))]) := by
    simp [Value.Keyed, Value.EntriesKeyed, Value.AllKeyed, Bindings.names]
  have number : Value.hasNaN (.object [("x", .number 0.0), ("y", .matrix [.null])]) = false := by
    decide
  have same : Value.equal (.object [("x", .number 0.0), ("y", .matrix [.null])])
      (.object [("y", .matrix [.null]), ("x", .number (-0.0))]) = true := by
    decide
  exact ⟨_, _, rfl, rfl, left, right, number, same,
    (equality_laws.1.symm _ _ left right).symm.trans same, (equality_laws.1.self _ left).2 number⟩

end FormulaTree
