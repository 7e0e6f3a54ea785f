import FormulaTree.Proofs.Formula.Canonical
import FormulaTree.Proofs.Formula.Obtainable
import FormulaTree.Proofs.Value.Equality

set_option autoImplicit false

namespace FormulaTree.Formula

section shapes

variable {value : Value} {op function : String} {target content b : Formula}
variable {parts blocks : List Formula} {statements : List (Formula × Bool)}

-- What is equal to a node of a kind is of that kind too.
theorem constant_equal_iff : (constant value).equal b = true ↔
    ∃ other, b = constant other ∧ value.equal other = true := by
  cases b <;> simp [equal]

theorem assignment_equal_iff : (assignment target content).equal b = true ↔
    ∃ target' content', b = assignment target' content' ∧ target.equal target' = true ∧
      content.equal content' = true := by
  cases b <;> simp [equal]

theorem block_equal_iff : (block statements).equal b = true ↔
    ∃ others, b = block others ∧ equalStatements statements others = true := by
  cases b <;> simp [equal]

theorem operation_equal_iff : (operation op function parts).equal b = true ↔
    ∃ others, b = operation op function others ∧ equalAll parts others = true := by
  cases b with
  | operation op' function' others =>
    simp only [equal, Bool.and_eq_true, beq_iff_eq]
    constructor
    · rintro ⟨⟨rfl, rfl⟩, same⟩
      exact ⟨others, rfl, same⟩
    · rintro ⟨_, ⟨⟩, same⟩
      exact ⟨⟨rfl, rfl⟩, same⟩
  | _ => simp [equal]

theorem parenthesis_equal_iff : (parenthesis content).equal b = true ↔
    ∃ other, b = parenthesis other ∧ content.equal other = true := by
  cases b <;> simp [equal]

theorem call_equal_iff : (call function parts).equal b = true ↔
    ∃ others, b = call function others ∧ equalAll parts others = true := by
  cases b with
  | call function' others =>
    simp only [equal, Bool.and_eq_true, beq_iff_eq]
    constructor
    · rintro ⟨rfl, same⟩
      exact ⟨others, rfl, same⟩
    · rintro ⟨_, ⟨⟩, same⟩
      exact ⟨rfl, same⟩
  | _ => simp [equal]

theorem conditional_equal_iff : (conditional parts blocks).equal b = true ↔
    ∃ parts' blocks', b = conditional parts' blocks' ∧ equalAll parts parts' = true ∧
      equalAll blocks blocks' = true := by
  cases b <;> simp [equal]

end shapes

theorem equalAll_iff {xs ys : List Formula} :
    equalAll xs ys = true ↔ List.Forall₂ (fun x y => x.equal y = true) xs ys := by
  induction xs generalizing ys with
  | nil => cases ys <;> simp [equalAll]
  | cons x xs ih => cases ys <;> simp [equalAll, ih]

theorem equalStatements_iff {ss ts : List (Formula × Bool)} :
    equalStatements ss ts = true ↔
      List.Forall₂ (fun s t => s.1.equal t.1 = true ∧ s.2 = t.2) ss ts := by
  induction ss generalizing ts with
  | nil => cases ts <;> simp [equalStatements]
  | cons s ss ih =>
    cases ts with
    | nil => simp [equalStatements]
    | cons t ts => simp [equalStatements, ih, and_assoc]

theorem anyNaN_eq_any (formulas : List Formula) : anyNaN formulas = formulas.any hasNaN := by
  induction formulas with
  | nil => rfl
  | cons formula rest ih => rw [anyNaN, List.any_cons, ih]

theorem statementNaN_eq_any (statements : List (Formula × Bool)) :
    statementNaN statements = statements.any fun entry => entry.1.hasNaN := by
  induction statements with
  | nil => rfl
  | cons entry rest ih => rw [statementNaN, List.any_cons, ih]

section symmetry

theorem equalAll_symm {xs ys : List Formula}
    (turn : ∀ x ∈ xs, ∀ {y : Formula}, x.Sound → y.Sound → x.equal y = true → y.equal x = true)
    (hx : ∀ x ∈ xs, x.Sound) (hy : ∀ y ∈ ys, y.Sound) (h : equalAll xs ys = true) :
    equalAll ys xs = true := by
  rw [equalAll_iff] at h ⊢
  exact forall₂_symm_mem h fun x x_mem y y_mem => turn x x_mem (hx x x_mem) (hy y y_mem)

theorem equal_symm {a b : Formula} (ha : a.Sound) (hb : b.Sound) (h : a.equal b = true) :
    b.equal a = true := by
  induction a generalizing b with
  | constant value =>
    obtain ⟨other, rfl, same⟩ := constant_equal_iff.1 h
    exact Value.equal_symm (sound_constant_iff.1 ha) (sound_constant_iff.1 hb) same
  | symbol name => cases b <;> simp_all [equal]
  | assignment target value iht ihv =>
    obtain ⟨target', value', rfl, same, same'⟩ := assignment_equal_iff.1 h
    obtain ⟨-, target_sound, value_sound⟩ := sound_assignment_iff.1 ha
    obtain ⟨-, target_sound', value_sound'⟩ := sound_assignment_iff.1 hb
    exact assignment_equal_iff.2 ⟨target, value, rfl, iht target_sound target_sound' same,
      ihv value_sound value_sound' same'⟩
  | block statements ih =>
    obtain ⟨others, rfl, same⟩ := block_equal_iff.1 h
    have sound := (sound_block_iff.1 ha).2
    have sound' := (sound_block_iff.1 hb).2
    refine block_equal_iff.2 ⟨statements, rfl, equalStatements_iff.2 ?_⟩
    refine forall₂_symm_mem (equalStatements_iff.1 same) fun s s_mem t t_mem both => ?_
    exact ⟨ih s s_mem (sound s s_mem) (sound' t t_mem) both.1, both.2.symm⟩
  | operation op function operands ih =>
    obtain ⟨others, rfl, same⟩ := operation_equal_iff.1 h
    have sound := (sound_operation_iff.1 ha).2
    have sound' := (sound_operation_iff.1 hb).2
    exact operation_equal_iff.2 ⟨operands, rfl, equalAll_symm ih sound sound' same⟩
  | parenthesis content ih =>
    obtain ⟨other, rfl, same⟩ := parenthesis_equal_iff.1 h
    exact ih (sound_parenthesis_iff.1 ha) (sound_parenthesis_iff.1 hb) same
  | call function arguments ih =>
    obtain ⟨others, rfl, same⟩ := call_equal_iff.1 h
    have sound := sound_call_iff.1 ha
    have sound' := sound_call_iff.1 hb
    exact call_equal_iff.2 ⟨arguments, rfl, equalAll_symm ih sound sound' same⟩
  | conditional conditions blocks ihc ihb =>
    obtain ⟨conditions', blocks', rfl, same, same'⟩ := conditional_equal_iff.1 h
    obtain ⟨-, conditions_sound, blocks_sound⟩ := sound_conditional_iff.1 ha
    obtain ⟨-, conditions_sound', blocks_sound'⟩ := sound_conditional_iff.1 hb
    exact conditional_equal_iff.2 ⟨conditions, blocks, rfl,
      equalAll_symm ihc conditions_sound conditions_sound' same,
      equalAll_symm ihb blocks_sound blocks_sound' same'⟩

end symmetry

section transitivity

theorem equalAll_trans {xs ys zs : List Formula}
    (chain : ∀ x ∈ xs, ∀ {y z : Formula}, x.equal y = true → y.equal z = true → x.equal z = true)
    (h : equalAll xs ys = true) (h' : equalAll ys zs = true) : equalAll xs zs = true := by
  rw [equalAll_iff] at h h' ⊢
  exact forall₂_trans_mem h h' fun x mem y z => chain x mem

theorem equal_trans {a b c : Formula} (h : a.equal b = true) (h' : b.equal c = true) :
    a.equal c = true := by
  induction a generalizing b c with
  | constant value =>
    obtain ⟨_, rfl, same⟩ := constant_equal_iff.1 h
    obtain ⟨_, rfl, same'⟩ := constant_equal_iff.1 h'
    exact Value.equal_trans same same'
  | symbol name => cases b <;> cases c <;> simp_all [equal]
  | assignment target value iht ihv =>
    obtain ⟨_, _, rfl, target_same, value_same⟩ := assignment_equal_iff.1 h
    obtain ⟨_, _, rfl, target_same', value_same'⟩ := assignment_equal_iff.1 h'
    exact assignment_equal_iff.2
      ⟨_, _, rfl, iht target_same target_same', ihv value_same value_same'⟩
  | block statements ih =>
    obtain ⟨_, rfl, same⟩ := block_equal_iff.1 h
    obtain ⟨_, rfl, same'⟩ := block_equal_iff.1 h'
    refine block_equal_iff.2 ⟨_, rfl, equalStatements_iff.2 ?_⟩
    refine forall₂_trans_mem (equalStatements_iff.1 same) (equalStatements_iff.1 same')
      fun s mem t u both both' => ?_
    exact ⟨ih s mem both.1 both'.1, both.2.trans both'.2⟩
  | operation op function operands ih =>
    obtain ⟨_, rfl, same⟩ := operation_equal_iff.1 h
    obtain ⟨_, rfl, same'⟩ := operation_equal_iff.1 h'
    exact operation_equal_iff.2 ⟨_, rfl, equalAll_trans ih same same'⟩
  | parenthesis content ih =>
    obtain ⟨_, rfl, same⟩ := parenthesis_equal_iff.1 h
    obtain ⟨_, rfl, same'⟩ := parenthesis_equal_iff.1 h'
    exact parenthesis_equal_iff.2 ⟨_, rfl, ih same same'⟩
  | call function arguments ih =>
    obtain ⟨_, rfl, same⟩ := call_equal_iff.1 h
    obtain ⟨_, rfl, same'⟩ := call_equal_iff.1 h'
    exact call_equal_iff.2 ⟨_, rfl, equalAll_trans ih same same'⟩
  | conditional conditions blocks ihc ihb =>
    obtain ⟨_, _, rfl, conditions_same, blocks_same⟩ := conditional_equal_iff.1 h
    obtain ⟨_, _, rfl, conditions_same', blocks_same'⟩ := conditional_equal_iff.1 h'
    exact conditional_equal_iff.2 ⟨_, _, rfl, equalAll_trans ihc conditions_same conditions_same',
      equalAll_trans ihb blocks_same blocks_same'⟩

end transitivity

section self

theorem equalAll_self_iff {formulas : List Formula}
    (self : ∀ formula ∈ formulas, formula.Sound →
      (formula.equal formula = true ↔ formula.hasNaN = false))
    (h : ∀ formula ∈ formulas, formula.Sound) :
    equalAll formulas formulas = true ↔ anyNaN formulas = false := by
  rw [equalAll_iff, List.forall₂_same, anyNaN_eq_any, List.any_eq_false]
  refine forall₂_congr fun formula mem => ?_
  rw [self formula mem (h formula mem), Bool.not_eq_true]

theorem equal_self_iff {a : Formula} (h : a.Sound) : a.equal a = true ↔ a.hasNaN = false := by
  induction a with
  | constant value => exact Value.equal_self_iff (sound_constant_iff.1 h)
  | symbol name => simp [equal, hasNaN]
  | assignment target value iht ihv =>
    obtain ⟨-, target_sound, value_sound⟩ := sound_assignment_iff.1 h
    rw [equal, hasNaN, Bool.and_eq_true, Bool.or_eq_false_iff, iht target_sound, ihv value_sound]
  | block statements ih =>
    have sound := (sound_block_iff.1 h).2
    rw [equal, hasNaN, equalStatements_iff, List.forall₂_same, statementNaN_eq_any,
      List.any_eq_false]
    refine forall₂_congr fun entry mem => ?_
    rw [and_iff_left rfl, ih entry mem (sound entry mem), Bool.not_eq_true]
  | operation op function operands ih =>
    have operands_self := equalAll_self_iff ih (sound_operation_iff.1 h).2
    simpa [equal, hasNaN] using operands_self
  | parenthesis content ih => exact ih (sound_parenthesis_iff.1 h)
  | call function arguments ih =>
    have arguments_self := equalAll_self_iff ih (sound_call_iff.1 h)
    simpa [equal, hasNaN] using arguments_self
  | conditional conditions blocks ihc ihb =>
    obtain ⟨-, conditions_sound, blocks_sound⟩ := sound_conditional_iff.1 h
    rw [equal, hasNaN, Bool.and_eq_true, Bool.or_eq_false_iff,
      equalAll_self_iff ihc conditions_sound, equalAll_self_iff ihb blocks_sound]

end self

theorem partialEquality_equal : PartialEquality Obtainable equal hasNaN where
  symm _ _ ha hb := Bool.eq_iff_iff.2 ⟨equal_symm ha.sound hb.sound, equal_symm hb.sound ha.sound⟩
  trans _ _ _ _ _ _ := equal_trans
  self _ ha := equal_self_iff ha.sound

end FormulaTree.Formula
