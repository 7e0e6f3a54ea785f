import FormulaTree.Proofs.Formula.RoundTrip
import FormulaTree.Proofs.Json.Texts
import FormulaTree.Proofs.Value.Depth

set_option autoImplicit false

namespace FormulaTree.Formula

open Bindings (names)
open Record (kindField)
open Registry (standard)

mutual

/-- The arrays and objects that are open at once in the JSON of a formula. -/
def depth : Formula → Nat
  | .symbol _ => 1
  | .constant value => value.depth + 1
  | .parenthesis content => depth content + 1
  | .assignment target value => max (depth target) (depth value) + 1
  | .operation _ _ operands => allDepth operands + 2
  | .call _ arguments => allDepth arguments + 2
  | .conditional conditions blocks => max (allDepth conditions) (allDepth blocks) + 2
  | .block statements => statementsDepth statements + 3

def allDepth : List Formula → Nat
  | [] => 0
  | formula :: rest => max (depth formula) (allDepth rest)

def statementsDepth : List (Formula × Bool) → Nat
  | [] => 0
  | (statement, _) :: rest => max (depth statement) (statementsDepth rest)

end

theorem depth_record {kind : Kind} {fields : List (String × Json)}
    (distinct : (kindField :: names fields).Nodup) :
    (record kind fields).depth = Json.fieldsDepth fields + 1 :=
  Value.depth_tagged distinct

mutual

theorem depth_toJson : ∀ {formula : Formula}, formula.Sound → formula.toJson.depth = formula.depth
  | .constant value, sound => by
    rw [toJson, depth_record (by simp [names, kindField])]
    simp [Json.fieldsDepth, Value.depth_toJson (sound_constant_iff.1 sound), depth]
  | .symbol name, _ => depth_record (by simp [names, kindField])
  | .assignment target value, sound => by
    obtain ⟨-, target_sound, value_sound⟩ := sound_assignment_iff.1 sound
    rw [toJson, depth_record (by simp [names, kindField])]
    simp [Json.fieldsDepth, depth_toJson target_sound, depth_toJson value_sound, depth]
  | .block statements, sound => by
    obtain ⟨nonempty, statements_sound⟩ := sound_block_iff.1 sound
    rw [toJson, depth_record (by simp [names, kindField])]
    simp [Json.fieldsDepth, Json.depth, depth,
      itemsDepth_statementsToJson nonempty statements_sound]
  | .operation op function operands, sound => by
    obtain ⟨-, operands_sound⟩ := sound_operation_iff.1 sound
    rw [toJson, depth_record (by simp [names, kindField])]
    simp [Json.fieldsDepth, Json.depth, itemsDepth_allToJson operands_sound, depth]
  | .parenthesis content, sound => by
    rw [toJson, depth_record (by simp [names, kindField])]
    simp [Json.fieldsDepth, depth_toJson (sound_parenthesis_iff.1 sound), depth]
  | .call function arguments, sound => by
    rw [toJson, depth_record (by simp [names, kindField])]
    simp [Json.fieldsDepth, Json.depth, itemsDepth_allToJson (sound_call_iff.1 sound), depth]
  | .conditional conditions blocks, sound => by
    obtain ⟨-, conditions_sound, blocks_sound⟩ := sound_conditional_iff.1 sound
    rw [toJson, depth_record (by simp [names, kindField])]
    simp [Json.fieldsDepth, Json.depth, itemsDepth_allToJson conditions_sound,
      itemsDepth_allToJson blocks_sound, depth]

theorem itemsDepth_allToJson : ∀ {formulas : List Formula}, (∀ formula ∈ formulas, formula.Sound) →
    Json.itemsDepth (allToJson formulas) = allDepth formulas
  | [], _ => rfl
  | formula :: rest, sound => by
    obtain ⟨first, later⟩ := List.forall_mem_cons.1 sound
    rw [allToJson, Json.itemsDepth, depth_toJson first, itemsDepth_allToJson later, allDepth]

theorem itemsDepth_statementsToJson : ∀ {statements : List (Formula × Bool)}, statements ≠ [] →
    (∀ entry ∈ statements, entry.1.Sound) →
    Json.itemsDepth (statementsToJson statements) = statementsDepth statements + 1
  | [], nonempty, _ => absurd rfl nonempty
  | (statement, visible) :: rest, _, sound => by
    obtain ⟨first, later⟩ := List.forall_mem_cons.1 sound
    have here : (Json.ofFields [("node", statement.toJson), ("visible", .bool visible)]).depth
        = statement.depth + 1 := by
      rw [Json.depth_ofFields (by simp [names])]
      simp [Json.fieldsDepth, Json.depth, depth_toJson first]
    rw [statementsToJson, Json.itemsDepth, here, statementsDepth]
    -- Without statements there is no record either, so the last one is a case of its own.
    cases rest with
    | nil => simp [statementsToJson, Json.itemsDepth, statementsDepth]
    | cons next rest =>
      rw [itemsDepth_statementsToJson (List.cons_ne_nil _ _) later]
      omega

end

theorem document_toJson (formula : Formula) : formula.toJson.Document where
  keyed := formula.keyed_toJson
  fitting := formula.holds_toJson Json.closed_fitting

/-- With a codec that reads back what it writes down to 127 arrays and objects that are open at once,
and nothing deeper, the text of a formula is read as its JSON is or, if the formula is too deep, is
no JSON at all. -/
theorem decodeText_write {codec : Json.Codec} (bounded : codec.Bounded 127) {formula : Formula}
    (h : Obtainable formula) :
    (∀ registry : Registry, registry.decodeText codec (codec.write formula.toJson)
      = if formula.depth ≤ 127 then registry.decode formula.toJson else .error .notJson) ∧
      standard.decode formula.toJson = .ok formula.canonical := by
  refine ⟨fun registry => ?_, (decode_toJson h).1⟩
  have document := formula.document_toJson
  have depth := depth_toJson h.sound
  rw [Registry.decodeText]
  by_cases within : formula.depth ≤ 127
  · rw [bounded.inverts _ document (by omega), if_pos within]
  · rw [bounded.rejects _ document (by omega), if_neg within]

section parentheses

variable (formula : Formula) (count : Nat)

-- Parentheses alone can make a formula as deep as one likes.
theorem depth_parentheses : (parenthesis^[count] formula).depth = formula.depth + count := by
  induction count with
  | zero => rfl
  | succ count ih => rw [Function.iterate_succ_apply', depth, ih, Nat.add_assoc]

theorem obtainable_parentheses {formula : Formula} (h : Obtainable formula) :
    Obtainable (parenthesis^[count] formula) := by
  induction count with
  | zero => exact h
  | succ count ih =>
    rw [Function.iterate_succ_apply']
    exact .parenthesis ih

end parentheses

/-- A block takes three levels and an assignment one, the constant in it four. In 119 pairs of
parentheses it is read from its compact text, in 120 it is not. -/
theorem decodeText_write_parentheses :
    ∃ formula codec, formula = .block [(.assignment (.symbol "a")
        (.constant (.matrix [.decimal (.ofParts 1 0), .null])), false)] ∧
      codec = Json.compact 127 ∧ codec.Bounded 127 ∧ Obtainable formula ∧ formula.depth = 8 ∧
      standard.decodeText codec (codec.write (parenthesis^[119] formula).toJson)
        = .ok (parenthesis^[119] formula).canonical ∧
      standard.decodeText codec (codec.write (parenthesis^[120] formula).toJson)
        = .error .notJson := by
  refine ⟨_, _, rfl, rfl, ?_⟩
  have bounded := Json.bounded_compact 127
  have obtained : Obtainable (.block [(.assignment (.symbol "a")
      (.constant (.matrix [.decimal (.ofParts 1 0), .null])), false)]) := by
    refine .block (List.forall_mem_singleton.2 (.assignTo "a" (.constant ?_))) rfl
    simp [Value.Keyed, Value.AllKeyed]
  obtain ⟨read, decoded⟩ := decodeText_write bounded (obtainable_parentheses 119 obtained)
  obtain ⟨refused, -⟩ := decodeText_write bounded (obtainable_parentheses 120 obtained)
  refine ⟨bounded, obtained, rfl, ?_, ?_⟩
  · rw [read standard, depth_parentheses, if_pos (by decide), decoded]
  · rw [refused standard, depth_parentheses, if_neg (by decide)]

end FormulaTree.Formula
