import FormulaTree.Formula.Encoding
import FormulaTree.Proofs.Formula.Parts
import FormulaTree.Proofs.Value.Keyed

set_option autoImplicit false

namespace FormulaTree.Formula

def Keyed : Formula → Prop
  | .constant value => value.Keyed
  | _ => True

inductive Sound : Formula → Prop where
  | intro (formula : Formula) (shape : formula.Shape) (keyed : formula.Keyed)
      (parts : ∀ child ∈ formula.children, Sound child.2) : Sound formula

theorem Sound.shape {formula : Formula} (h : formula.Sound) : formula.Shape := by
  cases h
  assumption

theorem Sound.keyed {formula : Formula} (h : formula.Sound) : formula.Keyed := by
  cases h
  assumption

theorem Sound.parts {formula : Formula} (h : formula.Sound) :
    ∀ child ∈ formula.children, child.2.Sound := by
  cases h
  assumption

theorem Sound.wellFormed {formula : Formula} (h : formula.Sound) : formula.WellFormed := by
  induction h with
  | intro formula shape _ _ ih => exact .intro formula shape ih

/-- Soundness in terms of the parts without their positions. -/
theorem sound_iff {formula : Formula} :
    formula.Sound ↔ formula.Shape ∧ formula.Keyed ∧
      ∀ part ∈ formula.children.map Prod.snd, part.Sound := by
  constructor
  · intro h
    refine ⟨h.shape, h.keyed, fun part mem => ?_⟩
    obtain ⟨child, child_mem, rfl⟩ := List.mem_map.1 mem
    exact h.parts child child_mem
  · rintro ⟨shape, keyed, parts⟩
    exact .intro formula shape keyed fun child mem => parts child.2 (List.mem_map_of_mem mem)

theorem sound_constant_iff {value : Value} : (constant value).Sound ↔ value.Keyed := by
  rw [sound_iff]
  simp [Shape, Keyed, children]

theorem sound_symbol (name : String) : (symbol name).Sound := by
  rw [sound_iff]
  simp [Shape, Keyed, children]

theorem sound_assignment_iff {target value : Formula} :
    (assignment target value).Sound ↔ target.kind = .symbol ∧ target.Sound ∧ value.Sound := by
  rw [sound_iff]
  simp [Shape, Keyed, children]

theorem sound_block_iff {statements : List (Formula × Bool)} :
    (block statements).Sound ↔ statements ≠ [] ∧ ∀ entry ∈ statements, entry.1.Sound := by
  rw [sound_iff, children, map_snd_numbered, List.forall_mem_map]
  simp only [Shape, Keyed, true_and]

theorem sound_operation_iff {op function : String} {operands : List Formula} :
    (operation op function operands).Sound ↔
      (operands.length = 1 ∨ operands.length = 2) ∧ ∀ operand ∈ operands, operand.Sound := by
  rw [sound_iff, children, map_snd_numbered]
  simp [Shape, Keyed]

theorem sound_parenthesis_iff {content : Formula} :
    (parenthesis content).Sound ↔ content.Sound := by
  rw [sound_iff]
  simp [Shape, Keyed, children]

theorem sound_call_iff {function : String} {arguments : List Formula} :
    (call function arguments).Sound ↔ ∀ argument ∈ arguments, argument.Sound := by
  rw [sound_iff, children, map_snd_numbered]
  simp [Shape, Keyed]

theorem sound_conditional_iff {conditions blocks : List Formula} :
    (conditional conditions blocks).Sound ↔ (conditional conditions blocks).Shape ∧
      (∀ condition ∈ conditions, condition.Sound) ∧ ∀ block ∈ blocks, block.Sound := by
  rw [sound_iff, children]
  refine and_congr_right fun shape => ?_
  have same := branches_perm 0 shape.2
  constructor
  · rintro ⟨-, parts⟩
    exact ⟨fun condition mem => parts condition (same.mem_iff.2 (List.mem_append_left _ mem)),
      fun block mem => parts block (same.mem_iff.2 (List.mem_append_right _ mem))⟩
  · rintro ⟨conditions_sound, blocks_sound⟩
    refine ⟨trivial, fun part mem => ?_⟩
    rcases List.mem_append.1 (same.mem_iff.1 mem) with mem | mem
    · exact conditions_sound part mem
    · exact blocks_sound part mem

theorem shape_keyed_of_withParts {formula result : Formula} {parts : List Formula}
    (h : formula.Shape) (count : parts.length = formula.children.length)
    (made : formula.withParts parts = .ok result) :
    result.Shape ∧ (formula.Keyed → result.Keyed) := by
  cases formula with
  | constant | symbol =>
    cases made
    exact ⟨h, id⟩
  | assignment target value =>
    obtain ⟨target', value', rfl⟩ := List.length_eq_two.1 count
    obtain ⟨rfl, shape⟩ := checkedAssignment_shape made
    exact ⟨shape, id⟩
  | block statements =>
    obtain ⟨rfl, shape⟩ := checkedBlock_shape made
    exact ⟨shape, id⟩
  | operation op function operands =>
    obtain ⟨rfl, shape⟩ := checkedOperation_shape made
    exact ⟨shape, id⟩
  | parenthesis content =>
    obtain ⟨content', rfl⟩ := List.length_eq_one_iff.1 count
    cases made
    exact ⟨trivial, id⟩
  | call function arguments =>
    cases made
    exact ⟨trivial, id⟩
  | conditional conditions blocks =>
    obtain ⟨rfl, shape⟩ := checkedConditional_shape made
    exact ⟨shape, id⟩

theorem wellFormed_of_withParts {formula result : Formula} {parts : List Formula}
    (h : formula.Shape) (count : parts.length = formula.children.length)
    (wellFormed : ∀ part ∈ parts, part.WellFormed) (made : formula.withParts parts = .ok result) :
    result.WellFormed := by
  refine .intro result (shape_keyed_of_withParts h count made).1 fun child mem => ?_
  refine wellFormed child.2 ?_
  rw [← (children_withParts count made).1]
  exact List.mem_map_of_mem mem

theorem sound_of_withParts {formula result : Formula} {parts : List Formula}
    (h : formula.Sound) (count : parts.length = formula.children.length)
    (sound : ∀ part ∈ parts, part.Sound) (made : formula.withParts parts = .ok result) :
    result.Sound := by
  obtain ⟨shape, keyed⟩ := shape_keyed_of_withParts h.shape count made
  rw [sound_iff, (children_withParts count made).1]
  exact ⟨shape, keyed h.keyed, sound⟩

section closed

variable {P : Json → Prop}

theorem holds_record (closed : Json.Closed P) {kind : Kind} {fields : List (String × Json)}
    (each : ∀ field ∈ fields, P field.2) : P (record kind fields) :=
  Value.holds_tagged closed each

mutual

theorem holds_toJson (closed : Json.Closed P) : ∀ formula : Formula, P formula.toJson
  | .constant value =>
    holds_record closed (List.forall_mem_singleton.2 (Value.holds_toJson closed value))
  | .symbol name => holds_record closed (List.forall_mem_singleton.2 (closed.string name))
  | .assignment target value =>
    holds_record closed (by simpa using ⟨holds_toJson closed target, holds_toJson closed value⟩)
  | .block statements =>
    holds_record closed
      (List.forall_mem_singleton.2 (closed.array (holds_statementsToJson closed statements)))
  | .operation op function operands =>
    holds_record closed (by
      simpa using ⟨closed.string op, closed.string function,
        closed.array (holds_allToJson closed operands)⟩)
  | .parenthesis content =>
    holds_record closed (List.forall_mem_singleton.2 (holds_toJson closed content))
  | .call function arguments =>
    holds_record closed (by
      simpa using ⟨closed.string function, closed.array (holds_allToJson closed arguments)⟩)
  | .conditional conditions blocks =>
    holds_record closed (by
      simpa using ⟨closed.array (holds_allToJson closed conditions),
        closed.array (holds_allToJson closed blocks)⟩)

theorem holds_allToJson (closed : Json.Closed P) : ∀ formulas : List Formula,
    ∀ item ∈ allToJson formulas, P item
  | [] => by simp [allToJson]
  | formula :: rest =>
    List.forall_mem_cons.2 ⟨holds_toJson closed formula, holds_allToJson closed rest⟩

theorem holds_statementsToJson (closed : Json.Closed P) : ∀ statements : List (Formula × Bool),
    ∀ item ∈ statementsToJson statements, P item
  | [] => by simp [statementsToJson]
  | (statement, visible) :: rest => by
    have entry : P (Json.ofFields [("node", statement.toJson), ("visible", .bool visible)]) :=
      closed.ofFields (by simpa using ⟨holds_toJson closed statement, closed.bool visible⟩)
    exact List.forall_mem_cons.2 ⟨entry, holds_statementsToJson closed rest⟩

end

end closed

theorem keyed_toJson (formula : Formula) : formula.toJson.Keyed :=
  holds_toJson Json.closed_keyed formula

end FormulaTree.Formula
