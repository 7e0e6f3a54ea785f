import FormulaTree.Proofs.Formula.Canonical
import FormulaTree.Proofs.Formula.Obtainable
import FormulaTree.Proofs.Registry.Fields
import FormulaTree.Proofs.Value.RoundTrip

set_option autoImplicit false

namespace FormulaTree.Formula

open Bindings (names)
open Record (kindField)
open Registry (standard schema fieldsOf)

theorem kind_canonical (formula : Formula) : formula.canonical.kind = formula.kind := by
  cases formula <;> rfl

theorem reading_standard (kind : Kind) : standard.reading kind.tag = .ok (.kind kind) := by
  cases kind <;> rfl

theorem exists_record (kind : Kind) (fields : List (String × Json))
    (distinct : (kindField :: names fields).Nodup)
    (filled : ∀ field ∈ (schema kind).fields, ∃ json,
      Bindings.get? field.name ((kindField, .string kind.tag) :: fields) = some json ∧
        field.check json = .ok ()) :
    ∃ object, record kind fields = .object object ∧
      Registry.tagFor object none = .ok kind.tag ∧
      fieldsOf kind (schema kind) (.object object) = .ok object ∧
      ∀ (name : String) {json : Json},
        Bindings.get? name ((kindField, .string kind.tag) :: fields) = some json →
        Bindings.get? name object = some json := by
  obtain ⟨object, made, checked, found⟩ := Record.exists_checked (schema kind)
    ((kindField, .string kind.tag) :: fields) distinct filled
  refine ⟨object, made, ?_, ?_, found⟩
  · rw [Registry.tagFor, Registry.ownTag, found kindField (if_pos rfl)]
  · exact Registry.fieldsOf_eq_ok_iff.2 checked

mutual

theorem decodeAs_toJson : ∀ {formula : Formula}, formula.Sound →
    standard.decodeAs none formula.toJson = .ok formula.canonical
  | .constant value, sound => by
    have read := value.ofJson_toJson (sound_constant_iff.1 sound)
    have passed : Registry.checkValue value.toJson = .ok () := by rw [Registry.checkValue, read]
    obtain ⟨object, made, tagged, checked, found⟩ := exists_record .constant
      [("value", value.toJson)] (by simp [names, kindField])
      (by simpa [schema, Bindings.get?, kindField] using passed)
    have here : Value.field Kind.constant.tag "value" object = .ok value.toJson := by
      rw [Value.field, found "value" rfl]
    rw [toJson, made]
    simp only [Registry.decodeAs, tagged, reading_standard, checked, ok_bind]
    exact bind_eq_ok.2 ⟨_, here, map_eq_ok.2 ⟨_, read, rfl⟩⟩
  | .symbol name, _ => by
    obtain ⟨object, made, tagged, checked, found⟩ := exists_record .symbol
      [("name", .string name)] (by simp [names, kindField])
      (by simp [schema, Bindings.get?, kindField, Record.Field.text, Record.checkText])
    rw [toJson, made]
    simp only [Registry.decodeAs, tagged, reading_standard, checked, ok_bind]
    simp only [Registry.textOf_eq (found "name" rfl), canonical]
  | .assignment target value, sound => by
    obtain ⟨symbol, target_sound, value_sound⟩ := sound_assignment_iff.1 sound
    obtain ⟨object, made, tagged, checked, found⟩ := exists_record .assignment
      [("object", target.toJson), ("value", value.toJson)] (by simp [names, kindField])
      (by simp [schema, Bindings.get?, kindField, Record.Field.any])
    have first := decodeAs_toJson target_sound
    have second := decodeAs_toJson value_sound
    rw [toJson, made]
    simp only [Registry.decodeAs, tagged, reading_standard, checked, ok_bind]
    refine bind_eq_ok.2 ⟨_, Registry.decodePart_eq_ok_iff.2 ⟨_, found "object" rfl, first⟩,
      bind_eq_ok.2 ⟨_, Registry.decodePart_eq_ok_iff.2 ⟨_, found "value" rfl, second⟩, ?_⟩⟩
    exact checkedAssignment_eq_ok ((kind_canonical target).trans symbol) _
  | .block statements, sound => by
    obtain ⟨nonempty, statements_sound⟩ := sound_block_iff.1 sound
    obtain ⟨object, made, tagged, checked, found⟩ := exists_record .block
      [("blocks", .array (statementsToJson statements))] (by simp [names, kindField])
      (by simp [schema, Bindings.get?, kindField, Record.Field.any])
    have read := decodeEntries_statementsToJson statements_sound
    rw [toJson, made]
    simp only [Registry.decodeAs, tagged, reading_standard, checked, ok_bind]
    refine bind_eq_ok.2 ⟨_, Registry.decodeStatements_eq_ok_iff.2 ⟨_, found "blocks" rfl, read⟩, ?_⟩
    exact if_neg (by simpa using statementsCanonical_ne_nil nonempty)
  | .operation op function operands, sound => by
    obtain ⟨count, operands_sound⟩ := sound_operation_iff.1 sound
    obtain ⟨object, made, tagged, checked, found⟩ := exists_record .operation
      [("op", .string op), ("fn", .string function), ("args", .array (allToJson operands))]
      (by simp [names, kindField])
      (by simp [schema, Bindings.get?, kindField, Record.Field.any, Record.Field.text,
        Record.checkText])
    rw [toJson, made]
    simp only [Registry.decodeAs, tagged, reading_standard, checked, ok_bind]
    refine bind_eq_ok.2 ⟨_, Registry.decodeParts_eq_ok_iff.2
      ⟨_, found "args" rfl, decodeItems_allToJson operands_sound⟩, ?_⟩
    rw [Registry.textOf_eq (found "op" rfl), Registry.textOf_eq (found "fn" rfl)]
    exact if_pos (by rw [length_allCanonical]; exact count)
  | .parenthesis content, sound => by
    have content_sound := sound_parenthesis_iff.1 sound
    obtain ⟨object, made, tagged, checked, found⟩ := exists_record .parenthesis
      [("content", content.toJson)] (by simp [names, kindField])
      (by simp [schema, Bindings.get?, kindField, Record.Field.any])
    have read := decodeAs_toJson content_sound
    rw [toJson, made]
    simp only [Registry.decodeAs, tagged, reading_standard, checked, ok_bind]
    exact map_eq_ok.2
      ⟨_, Registry.decodePart_eq_ok_iff.2 ⟨_, found "content" rfl, read⟩, rfl⟩
  | .call function arguments, sound => by
    obtain ⟨object, made, tagged, checked, found⟩ := exists_record .call
      [("fn", .string function), ("args", .array (allToJson arguments))]
      (by simp [names, kindField])
      (by simp [schema, Bindings.get?, kindField, Record.Field.any, Record.Field.text,
        Record.checkText])
    have arguments_sound := sound_call_iff.1 sound
    rw [toJson, made]
    simp only [Registry.decodeAs, tagged, reading_standard, checked, ok_bind]
    rw [Registry.textOf_eq (found "fn" rfl)]
    exact map_eq_ok.2 ⟨_, Registry.decodeParts_eq_ok_iff.2
      ⟨_, found "args" rfl, decodeItems_allToJson arguments_sound⟩, rfl⟩
  | .conditional conditions blocks, sound => by
    obtain ⟨shape, conditions_sound, blocks_sound⟩ := sound_conditional_iff.1 sound
    obtain ⟨object, made, tagged, checked, found⟩ := exists_record .conditional
      [("conditions", .array (allToJson conditions)), ("blockNodes", .array (allToJson blocks))]
      (by simp [names, kindField]) (by simp [schema, Bindings.get?, kindField, Record.Field.any])
    rw [toJson, made]
    simp only [Registry.decodeAs, tagged, reading_standard, checked, ok_bind]
    refine bind_eq_ok.2 ⟨_, Registry.decodeParts_eq_ok_iff.2
      ⟨_, found "conditions" rfl, decodeItems_allToJson conditions_sound⟩, bind_eq_ok.2
        ⟨_, Registry.decodeParts_eq_ok_iff.2
          ⟨_, found "blockNodes" rfl, decodeItems_allToJson blocks_sound⟩, ?_⟩⟩
    refine checkedConditional_eq_ok ⟨allCanonical_ne_nil shape.1, ?_⟩
    rw [length_allCanonical, length_allCanonical]
    exact shape.2

theorem decodeItems_allToJson : ∀ {formulas : List Formula} {parent : Kind} {name : String},
    (∀ formula ∈ formulas, formula.Sound) →
    standard.decodeItems parent name (allToJson formulas) = .ok (allCanonical formulas)
  | [], _, _, _ => rfl
  | formula :: rest, _, _, sound => by
    obtain ⟨first, later⟩ := List.forall_mem_cons.1 sound
    rw [allToJson, Registry.decodeItems]
    exact bind_eq_ok.2 ⟨_, Registry.objectOnly_eq_ok_iff.2 (decodeAs_toJson first),
      bind_eq_ok.2 ⟨_, decodeItems_allToJson later, rfl⟩⟩

theorem decodeEntries_statementsToJson : ∀ {statements : List (Formula × Bool)},
    (∀ entry ∈ statements, entry.1.Sound) →
    standard.decodeEntries (statementsToJson statements) = .ok (statementsCanonical statements)
  | [], _ => rfl
  | (statement, visible) :: rest, sound => by
    obtain ⟨first, later⟩ := List.forall_mem_cons.1 sound
    obtain ⟨object, made, passed, found⟩ := Record.exists_checked Registry.statementSchema
      [("node", statement.toJson), ("visible", .bool visible)] (by simp [names])
      (by simp [Registry.statementSchema, Bindings.get?, Record.Field.any, Record.Field.flag,
        Record.checkFlag])
    have checked : fieldsOf .block Registry.statementSchema (.object object) = .ok object :=
      Registry.fieldsOf_eq_ok_iff.2 passed
    have read := Registry.decodeNode_eq_ok_iff.2 ⟨_, found "node" rfl, decodeAs_toJson first⟩
    have flag : Record.flagOf "visible" object = visible := by
      unfold Record.flagOf
      rw [found "visible" rfl]
    rw [statementsToJson, made, Registry.decodeEntries, Registry.decodeEntry]
    refine bind_eq_ok.2 ⟨_, checked, bind_eq_ok.2 ⟨_, read, bind_eq_ok.2
      ⟨_, decodeEntries_statementsToJson later, ?_⟩⟩⟩
    rw [flag, statementsCanonical]

end

/-- Every obtainable formula is read back from its JSON as its canonical form, and so as an equal
formula when it has no NaN. -/
theorem decode_toJson {formula : Formula} (h : Obtainable formula) :
    standard.decode formula.toJson = .ok formula.canonical ∧
      (formula.hasNaN = false → formula.canonical.equal formula = true) :=
  ⟨decodeAs_toJson h.sound, canonical_equal h.sound⟩

/-- An object with disordered keys, one of which would name the kind of a record, in a statement
that is not visible. -/
theorem decode_toJson_disordered :
    ∃ formula, formula = .block [(.constant (.object [("kind", .string "Complex"),
        ("b", .matrix [.decimal (.ofParts (-150) 3), .number (-1.0 / 0.0)]), ("a", .number (-0.0))]),
          false)] ∧
      Obtainable formula ∧
      standard.decode formula.toJson = .ok (.block [(.constant (.object [("a", .number (-0.0)),
        ("b", .matrix [.decimal (.ofParts (-150) 3), .number (-1.0 / 0.0)]),
          ("kind", .string "Complex")]), false)]) ∧
      formula.canonical.equal formula = true := by
  refine ⟨_, rfl, ?_⟩
  have obtained : Obtainable (.block [(.constant (.object [("kind", .string "Complex"),
      ("b", .matrix [.decimal (.ofParts (-150) 3), .number (-1.0 / 0.0)]), ("a", .number (-0.0))]),
        false)]) := by
    refine .block (List.forall_mem_singleton.2 (.constant ?_)) rfl
    simp [Value.Keyed, Value.AllKeyed, Value.EntriesKeyed, names]
  obtain ⟨decoded, same⟩ := decode_toJson obtained
  exact ⟨obtained, decoded.trans rfl, same rfl⟩

end FormulaTree.Formula
