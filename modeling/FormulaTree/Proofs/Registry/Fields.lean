import FormulaTree.Proofs.Record
import FormulaTree.Registry

set_option autoImplicit false

namespace FormulaTree.Registry

variable {registry : Registry} {parent : Formula.Kind} {name : String}
  {fields : List (String × Json)}

theorem isObject_of_decode {json : Json} {formula : Formula}
    (h : registry.decode json = .ok formula) : json.isObject = true := by
  cases json with
  | object fields => rfl
  | _ => cases h

theorem objectOnly_eq_ok_iff {json : Json} {e : Error} {formula : Formula} :
    (if json.isObject then registry.decodeAs none json else .error e) = .ok formula ↔
      registry.decode json = .ok formula := by
  constructor
  · intro h
    split at h
    · exact h
    · cases h
  · intro h
    rw [if_pos (isObject_of_decode h)]
    exact h

theorem decodePart_eq_ok_iff {formula : Formula} :
    registry.decodePart parent name fields = .ok formula ↔
      ∃ json, Bindings.get? name fields = some json ∧ registry.decode json = .ok formula := by
  refine Bindings.search_eq_iff (registry.decodePart parent name) name (.ok formula) _
    (by simp [decodePart]) (fun json rest => ?_) (fun json rest other => ?_) fields
  · rw [decodePart, if_pos rfl]
    exact objectOnly_eq_ok_iff
  · conv_lhs => unfold decodePart
    exact if_neg other

theorem decodeNode_eq_ok_iff {formula : Formula} :
    registry.decodeNode fields = .ok formula ↔
      ∃ json, Bindings.get? "node" fields = some json ∧ registry.decode json = .ok formula := by
  refine Bindings.search_eq_iff registry.decodeNode "node" (.ok formula) _
    (by simp [decodeNode]) (fun json rest => ?_) (fun json rest other => ?_) fields
  · rw [decodeNode, if_pos rfl]
    exact objectOnly_eq_ok_iff
  · conv_lhs => unfold decodeNode
    exact if_neg other

theorem decodeItems_eq_mapM (items : List Json) :
    registry.decodeItems parent name items = items.mapM fun json =>
      if json.isObject then registry.decodeAs none json
      else .error (.invalidArgument (.notRecord parent name)) := by
  induction items with
  | nil => rfl
  | cons json rest ih =>
    rw [decodeItems, List.mapM_cons, ih]
    rfl

theorem decodeItems_eq_ok_iff {items : List Json} {formulas : List Formula} :
    registry.decodeItems parent name items = .ok formulas ↔
      List.Forall₂ (fun json formula => registry.decode json = .ok formula) items formulas := by
  simp only [decodeItems_eq_mapM, mapM_eq_ok, objectOnly_eq_ok_iff]

theorem decodeParts_eq_ok_iff {formulas : List Formula} :
    registry.decodeParts parent name fields = .ok formulas ↔
      ∃ items, Bindings.get? name fields = some (.array items) ∧
        registry.decodeItems parent name items = .ok formulas := by
  have searched := Bindings.search_eq_iff (registry.decodeParts parent name) name (.ok formulas)
    (fun json => ∃ items, json = .array items ∧
      registry.decodeItems parent name items = .ok formulas) (by simp [decodeParts])
    (fun json rest => by cases json <;> simp [decodeParts])
    (fun json rest other => by conv_lhs => unfold decodeParts; exact if_neg other) fields
  simpa using searched

def decodeStatement (registry : Registry) (item : Json) : Except Error (Formula × Bool) := do
  let fields ← fieldsOf .block statementSchema item
  let statement ← registry.decodeEntry item
  .ok (statement, Record.flagOf "visible" fields)

theorem decodeEntries_eq_mapM (items : List Json) :
    registry.decodeEntries items = items.mapM registry.decodeStatement := by
  induction items with
  | nil => rfl
  | cons item rest ih =>
    rw [decodeEntries, List.mapM_cons, ih, decodeStatement]
    simp only [bind_assoc]
    rfl

theorem decodeStatements_eq_ok_iff {statements : List (Formula × Bool)} :
    registry.decodeStatements fields = .ok statements ↔
      ∃ items, Bindings.get? "blocks" fields = some (.array items) ∧
        registry.decodeEntries items = .ok statements := by
  have searched := Bindings.search_eq_iff registry.decodeStatements "blocks" (.ok statements)
    (fun json => ∃ items, json = .array items ∧ registry.decodeEntries items = .ok statements)
    (by simp [decodeStatements]) (fun json rest => by cases json <;> simp [decodeStatements])
    (fun json rest other => by conv_lhs => unfold decodeStatements; exact if_neg other) fields
  simpa using searched

theorem textOf_eq {text : String} (h : Bindings.get? name fields = some (.string text)) :
    Record.textOf name fields = text := by
  rw [Record.textOf, h]

theorem fieldsOf_eq_ok_iff {schema : Record.Schema} {json : Json} {checked : List (String × Json)} :
    fieldsOf parent schema json = .ok checked ↔ schema.fieldsOf json = .ok checked := by
  unfold fieldsOf
  cases schema.fieldsOf json <;> simp [Except.mapError]

end FormulaTree.Registry
