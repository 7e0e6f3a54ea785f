import FormulaTree.Decimal.Basic
import Mathlib.Algebra.Field.Rat
import Mathlib.Algebra.GroupWithZero.Basic
import Mathlib.Algebra.Group.Int.Defs
import Mathlib.Logic.Relation
import Mathlib.Tactic.Ring
import Mathlib.Tactic.NormNum

/-!
# One form for each number

`Decimal.quantity` is the rational number that a mantissa and a scale stand for. Making a decimal
keeps that number (`value_ofParts`), and two decimals of one number are the same (`eq_of_value_eq`),
also at the least scale, where trailing zeros have to stay. `Shift` is one pass of the loop that
moves the zeros, with a scale that goes down without wrapping around.
-/

set_option autoImplicit false

namespace FormulaTree.Decimal

/-- The number `mantissa * 10 ^ (- scale)`. -/
def quantity (mantissa scale : Int) : Rat :=
  mantissa * 10 ^ (-scale)

def value (d : Decimal) : Rat :=
  quantity d.mantissa d.scale.toInt

/-- One pass of the loop: the last zero of the mantissa goes into the scale, if there is a scale one
below it. -/
structure Shift (before after : Int × Int64) : Prop where
  mantissa : before.1 = after.1 * 10
  scale : after.2.toInt = before.2.toInt - 1

theorem ne_minValue_iff {scale : Int64} :
    scale ≠ Int64.minValue ↔ Int64.minValue.toInt < scale.toInt := by
  have low := scale.minValue_le_toInt
  rw [ne_eq, ← Int64.toInt_inj]
  omega

theorem toInt_pred {scale : Int64} (h : scale ≠ Int64.minValue) :
    (scale - 1).toInt = scale.toInt - 1 := by
  have low : Int64.minValue.toInt < scale.toInt := ne_minValue_iff.1 h
  have high : scale.toInt < 2 ^ 63 := scale.toInt_lt
  have least : Int64.minValue.toInt = -2 ^ 63 := rfl
  rw [Int64.toInt_sub]
  exact Int.bmod_eq_of_le (by simp; omega) (by simp; omega)

theorem mul_ten_of_mod {mantissa : Int} (h : mantissa % 10 = 0) :
    mantissa / 10 * 10 = mantissa :=
  Int.ediv_mul_cancel (Int.dvd_of_emod_eq_zero h)

theorem quantity_mul_pow (mantissa scale : Int) (zeros : Nat) :
    quantity (mantissa * 10 ^ zeros) scale = quantity mantissa (scale - zeros) := by
  have ten : (10 : Rat) ≠ 0 := by norm_num
  have power : (10 : Rat) ^ (-(scale - zeros)) = 10 ^ zeros * 10 ^ (-scale) := by
    rw [neg_sub, sub_eq_add_neg, zpow_add₀ ten, zpow_natCast]
  rw [quantity, quantity, power]
  push_cast
  ring

theorem quantity_injective (scale : Int) {mantissa mantissa' : Int}
    (h : quantity mantissa scale = quantity mantissa' scale) : mantissa = mantissa' := by
  have power : (10 : Rat) ^ (-scale) ≠ 0 := zpow_ne_zero _ (by norm_num)
  have same : (mantissa : Rat) = mantissa' := mul_right_cancel₀ power h
  exact_mod_cast same

theorem Shift.quantity_eq {before after : Int × Int64} (h : Shift before after) :
    quantity after.1 after.2.toInt = quantity before.1 before.2.toInt := by
  have moved := quantity_mul_pow after.1 before.2.toInt 1
  rw [pow_one] at moved
  rw [h.mantissa, h.scale, moved]
  rfl

/-- Every run of the loop ends, since a pass takes the scale down and no scale is below the least.
-/
theorem shift_wellFounded : WellFounded fun after before => Shift before after := by
  refine Subrelation.wf ?_ (measure fun state : Int × Int64 =>
    (state.2.toInt - Int64.minValue.toInt).toNat).wf
  intro after before pass
  have down := pass.scale
  have low := after.2.minValue_le_toInt
  change (after.2.toInt - Int64.minValue.toInt).toNat
    < (before.2.toInt - Int64.minValue.toInt).toNat
  omega

theorem shifts_strip (mantissa : Int) (scale : Int64) :
    Relation.ReflTransGen Shift (mantissa, scale) (strip mantissa scale) := by
  fun_induction strip mantissa scale with
  | case1 mantissa scale more ih =>
    have pass : Shift (mantissa, scale) (mantissa / 10, scale - 1) :=
      ⟨(mul_ten_of_mod more.2.1).symm, toInt_pred more.2.2⟩
    exact .head pass ih
  | case2 => exact .refl

theorem quantity_of_shifts {before after : Int × Int64}
    (h : Relation.ReflTransGen Shift before after) :
    quantity after.1 after.2.toInt = quantity before.1 before.2.toInt := by
  induction h with
  | refl => rfl
  | tail _ pass ih => rw [pass.quantity_eq, ih]

theorem scale_le_of_shifts {before after : Int × Int64}
    (h : Relation.ReflTransGen Shift before after) : after.2.toInt ≤ before.2.toInt := by
  induction h with
  | refl => exact le_rfl
  | tail _ pass ih =>
    have down := pass.scale
    omega

theorem natAbs_le_of_shifts {before after : Int × Int64}
    (h : Relation.ReflTransGen Shift before after) : after.1.natAbs ≤ before.1.natAbs := by
  induction h with
  | refl => exact le_rfl
  | tail _ pass ih =>
    have tenfold := pass.mantissa
    omega

theorem natAbs_ofParts_le (mantissa : Int) (scale : Int64) :
    (ofParts mantissa scale).mantissa.natAbs ≤ mantissa.natAbs := by
  unfold ofParts
  split
  · exact Nat.zero_le _
  · exact natAbs_le_of_shifts (shifts_strip mantissa scale)

/-- The loop stops at a decimal that is not zero: no pass is left to make. -/
theorem not_shift {d : Decimal} (nonzero : d.mantissa ≠ 0) (next : Int × Int64) :
    ¬ Shift (d.mantissa, d.scale) next := by
  intro pass
  have zero : d.mantissa % 10 = 0 := by
    have tenfold := pass.mantissa
    simp only at tenfold
    omega
  have least : d.scale = Int64.minValue := d.normal.2 nonzero zero
  have down := pass.scale
  have low := next.2.minValue_le_toInt
  simp only [least] at down
  omega

theorem value_ofParts (mantissa : Int) (scale : Int64) :
    (ofParts mantissa scale).value = quantity mantissa scale.toInt := by
  unfold ofParts
  split
  · rename_i zero
    simp [value, quantity, zero]
  · exact quantity_of_shifts (shifts_strip mantissa scale)

/-- Of two decimals of one number, neither has the lower scale: the other would have trailing zeros,
and so the least scale. -/
theorem scale_le_of_value_eq {d e : Decimal} (h : d.value = e.value) : e.scale ≤ d.scale := by
  rw [Int64.le_iff_toInt_le]
  by_contra lower
  obtain ⟨zeros, apart⟩ : ∃ zeros : Nat, e.scale.toInt - (zeros + 1 : Nat) = d.scale.toInt :=
    ⟨(e.scale.toInt - d.scale.toInt - 1).toNat, by omega⟩
  have padded : e.mantissa = d.mantissa * 10 ^ (zeros + 1) := by
    refine quantity_injective e.scale.toInt ?_
    rw [quantity_mul_pow, apart]
    exact h.symm
  have zero : e.mantissa % 10 = 0 := by
    rw [padded, pow_succ, ← mul_assoc]
    exact Int.mul_emod_left _ _
  by_cases nothing : e.mantissa = 0
  · have nothing' : d.mantissa = 0 := by
      rw [nothing] at padded
      exact (mul_eq_zero.1 padded.symm).resolve_right (pow_ne_zero _ (by norm_num))
    rw [d.normal.1 nothing', e.normal.1 nothing] at lower
    omega
  · have low := d.scale.minValue_le_toInt
    rw [e.normal.2 nothing zero] at lower
    omega

theorem eq_of_value_eq {d e : Decimal} (h : d.value = e.value) : d = e := by
  have scale : d.scale = e.scale :=
    Int64.le_antisymm (scale_le_of_value_eq h.symm) (scale_le_of_value_eq h)
  have mantissa : d.mantissa = e.mantissa := by
    rw [value, value, scale] at h
    exact quantity_injective e.scale.toInt h
  obtain ⟨dm, ds, dn⟩ := d
  obtain ⟨em, es, en⟩ := e
  simp_all

/-- Decimals are equal exactly when they are made from parts of one number. The loop that makes them
ends at every scale, each of its passes being one down in the scale, and it stops at the number that
it was given, zero having no other scale than zero and any other number no zero to move. -/
theorem ofParts_eq_iff :
    (∀ (m₁ m₂ : Int) (s₁ s₂ : Int64),
      ofParts m₁ s₁ = ofParts m₂ s₂ ↔ quantity m₁ s₁.toInt = quantity m₂ s₂.toInt) ∧
    (WellFounded fun after before => Shift before after) ∧
    ∀ (m : Int) (s : Int64),
      (ofParts m s).value = quantity m s.toInt ∧
      (m = 0 → (ofParts m s).mantissa = 0 ∧ (ofParts m s).scale = 0) ∧
      (m ≠ 0 →
        Relation.ReflTransGen Shift (m, s) ((ofParts m s).mantissa, (ofParts m s).scale) ∧
        (∀ next, ¬ Shift ((ofParts m s).mantissa, (ofParts m s).scale) next) ∧
        (ofParts m s).scale ≤ s ∧
        ((ofParts m s).mantissa % 10 = 0 → (ofParts m s).scale = Int64.minValue)) := by
  refine ⟨fun m₁ m₂ s₁ s₂ => ?_, shift_wellFounded, fun m s => ⟨value_ofParts m s, ?_, ?_⟩⟩
  · rw [← value_ofParts, ← value_ofParts]
    exact ⟨congrArg value, eq_of_value_eq⟩
  · rintro rfl
    exact ⟨rfl, rfl⟩
  · intro nonzero
    have made : ((ofParts m s).mantissa, (ofParts m s).scale) = strip m s := by
      rw [ofParts, dif_neg nonzero]
    have kept : (ofParts m s).mantissa ≠ 0 := by
      rw [ofParts, dif_neg nonzero]
      exact strip_ne_zero s nonzero
    have run :
        Relation.ReflTransGen Shift (m, s) ((ofParts m s).mantissa, (ofParts m s).scale) := by
      rw [made]
      exact shifts_strip m s
    exact ⟨run, not_shift kept, Int64.le_iff_toInt_le.2 (scale_le_of_shifts run),
      (ofParts m s).normal.2 kept⟩

end FormulaTree.Decimal
