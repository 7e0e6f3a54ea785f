import FormulaTree.Proofs.Json.Parts
import FormulaTree.Proofs.Registry.Fields
import FormulaTree.Proofs.Value.Fields

/-!
# One step of decoding

`Registry.Reads` says what the fields of a record come to, given what the JSON of its parts comes
to. A registry that binds its tags to the eight kinds decodes a record in just this way
(`Registry.reads_of_decodeAs`, `Registry.decode_of_reads`); nothing later opens the decoder itself.
-/

set_option autoImplicit false

namespace FormulaTree.Registry

/-- Every tag of the registry stands for one of the eight kinds. -/
def BuiltIn (registry : Registry) : Prop :=
  ∀ entry ∈ registry.rules, ∃ kind, entry.2 = .direct (.kind kind)

def Tagged (registry : Registry) (kind : Formula.Kind) (json : Json) : Prop :=
  ∃ tag, Bindings.get? Record.kindField json.fields = some (.string tag) ∧
    Bindings.get? tag registry.rules = some (.direct (.kind kind))

/-- The JSON of a statement, within it that of the formula, and whether the result is visible: a
record, or an array of the same in order. The result is visible where nothing is said. -/
inductive Entry : Json → Json → Bool → Prop where
  | record {fields : List (String × Json)} {node : Json} {visible : Bool}
    (found : Bindings.get? "node" fields = some node)
    (flag : Bindings.get? "visible" fields = some (.bool visible)) :
    Entry (.object fields) node visible
  | silentRecord {fields : List (String × Json)} {node : Json}
    (found : Bindings.get? "node" fields = some node)
    (silent : Bindings.get? "visible" fields = none) : Entry (.object fields) node true
  | single (node : Json) : Entry (.array [node]) node true
  | pair (node : Json) (visible : Bool) : Entry (.array [node, .bool visible]) node visible

def ReadsEntry (registry : Registry) (item : Json) (statement : Formula × Bool) : Prop :=
  ∃ node, Entry item node statement.2 ∧ registry.decode node = .ok statement.1

/-- What a formula is made from when the fields are those of its record. -/
inductive Reads (registry : Registry) (fields : List (String × Json)) : Formula → Prop where
  | constant {json : Json} {value : Value} (found : Bindings.get? "value" fields = some json)
    (read : Value.ofJson json = .ok value) : Reads registry fields (.constant value)
  | symbol {name : String} (found : Bindings.get? "name" fields = some (.string name)) :
    Reads registry fields (.symbol name)
  | assignment {json json' : Json} {target value : Formula}
    (found : Bindings.get? "object" fields = some json)
    (read : registry.decode json = .ok target) (isSymbol : target.kind = .symbol)
    (found' : Bindings.get? "value" fields = some json')
    (read' : registry.decode json' = .ok value) : Reads registry fields (.assignment target value)
  | block {items : List Json} {statements : List (Formula × Bool)}
    (found : Bindings.get? "blocks" fields = some (.array items))
    (each : List.Forall₂ registry.ReadsEntry items statements)
    (shape : (Formula.block statements).Shape) : Reads registry fields (.block statements)
  | operation {op function : String} {items : List Json} {operands : List Formula}
    (found_op : Bindings.get? "op" fields = some (.string op))
    (found_fn : Bindings.get? "fn" fields = some (.string function))
    (found : Bindings.get? "args" fields = some (.array items))
    (each : List.Forall₂ (fun item operand => registry.decode item = .ok operand) items operands)
    (shape : (Formula.operation op function operands).Shape) :
    Reads registry fields (.operation op function operands)
  | parenthesis {json : Json} {content : Formula}
    (found : Bindings.get? "content" fields = some json)
    (read : registry.decode json = .ok content) : Reads registry fields (.parenthesis content)
  | call {function : String} {items : List Json} {arguments : List Formula}
    (found_fn : Bindings.get? "fn" fields = some (.string function))
    (found : Bindings.get? "args" fields = some (.array items))
    (each : List.Forall₂ (fun item argument => registry.decode item = .ok argument)
      items arguments) : Reads registry fields (.call function arguments)
  | conditional {items items' : List Json} {conditions blocks : List Formula}
    (found : Bindings.get? "conditions" fields = some (.array items))
    (each : List.Forall₂ (fun item condition => registry.decode item = .ok condition)
      items conditions)
    (found' : Bindings.get? "blockNodes" fields = some (.array items'))
    (each' : List.Forall₂ (fun item block => registry.decode item = .ok block) items' blocks)
    (shape : (Formula.conditional conditions blocks).Shape) :
    Reads registry fields (.conditional conditions blocks)

variable {registry : Registry}

theorem Tagged.unique {kind kind' : Formula.Kind} {json : Json} (h : registry.Tagged kind json)
    (h' : registry.Tagged kind' json) : kind = kind' := by
  obtain ⟨tag, own, bound⟩ := h
  obtain ⟨tag', own', bound'⟩ := h'
  rw [own] at own'
  cases own'
  rw [bound] at bound'
  cases bound'
  rfl

theorem BuiltIn.reading_eq_ok_iff (builtIn : registry.BuiltIn) {tag : String} {reading : Reading} :
    registry.reading tag = .ok reading ↔
      Bindings.get? tag registry.rules = some (.direct reading) := by
  unfold Registry.reading follow
  cases found : Bindings.get? tag registry.rules with
  | none => simp
  | some rule =>
    obtain ⟨kind, same⟩ := builtIn _ (Bindings.mem_of_get? found)
    obtain rfl : rule = .direct (.kind kind) := same
    simp

theorem BuiltIn.reading (builtIn : registry.BuiltIn) {tag : String} {reading : Reading}
    (h : registry.reading tag = .ok reading) : ∃ kind, reading = .kind kind := by
  have found := Bindings.mem_of_get? (builtIn.reading_eq_ok_iff.1 h)
  obtain ⟨kind, same⟩ := builtIn _ found
  cases same
  exact ⟨kind, rfl⟩

theorem BuiltIn.register (builtIn : registry.BuiltIn) (tag : String) (kind : Formula.Kind) :
    (registry.register tag (.direct (.kind kind))).BuiltIn := by
  intro entry mem
  rcases Bindings.mem_of_mem_set mem with rfl | mem
  · exact ⟨kind, rfl⟩
  · exact builtIn entry mem

theorem builtIn_empty : empty.BuiltIn := by
  simp [BuiltIn, empty]

theorem builtIn_standard : standard.BuiltIn :=
  List.foldlRecOn _ _ builtIn_empty fun _ builtIn kind _ => builtIn.register kind.tag kind

theorem tagFor_none_eq_ok_iff {fields : List (String × Json)} {tag : String} :
    tagFor fields none = .ok tag ↔
      Bindings.get? Record.kindField fields = some (.string tag) := by
  rw [tagFor, ownTag]
  cases found : Bindings.get? Record.kindField fields with
  | none => simp
  | some json => cases json <;> simp

theorem names_schema_nodup (kind : Formula.Kind) :
    ((schema kind).fields.map Record.Field.name).Nodup := by
  cases kind <;> simp [schema, Record.Field.any, Record.Field.text]

theorem filled_value_iff {fields : List (String × Json)} :
    (⟨"value", checkValue, false⟩ : Record.Field).Filled fields ↔
      ∃ json, Bindings.get? "value" fields = some json ∧
        ∃ value, Value.ofJson json = .ok value := by
  have checked (json : Json) :
      checkValue json = .ok () ↔ ∃ value, Value.ofJson json = .ok value := by
    unfold checkValue
    cases Value.ofJson json <;> simp
  unfold Record.Field.Filled
  cases Bindings.get? "value" fields <;> simp [checked]

section entries

theorem Entry.unique {item node node' : Json} {visible visible' : Bool}
    (h : Entry item node visible) (h' : Entry item node' visible') : node = node' := by
  cases h with
  | record found _ | silentRecord found _ =>
    cases h' with
    | record found' _ | silentRecord found' _ => exact Option.some.inj (found.symm.trans found')
  | single | pair =>
    cases h'
    rfl

theorem Entry.sizeOf_lt {item node : Json} {visible : Bool} (h : Entry item node visible) :
    sizeOf node < sizeOf item := by
  cases h with
  | record found _ | silentRecord found _ => exact Json.sizeOf_field_lt found
  | single | pair => exact Json.sizeOf_item_lt List.mem_cons_self

theorem Entry.keyed {item node : Json} {visible : Bool} (h : Entry item node visible)
    (keyed : item.Keyed) : node.Keyed := by
  cases h with
  | record found _ | silentRecord found _ => exact Json.keyed_of_get? keyed.2 found
  | single | pair => exact keyed.1

theorem filled_statement_iff {fields : List (String × Json)} :
    (∀ field ∈ statementSchema.fields, field.Filled fields) ↔
      (∃ node, Bindings.get? "node" fields = some node) ∧
        ∀ json, Bindings.get? "visible" fields = some json → ∃ b, json = .bool b := by
  simp only [statementSchema, List.forall_mem_cons, Record.filled_any_iff, Record.filled_flag_iff]
  simp

theorem readsEntry_of_decodeStatement {item : Json} {statement : Formula × Bool}
    (h : registry.decodeStatement item = .ok statement) : registry.ReadsEntry item statement := by
  obtain ⟨checked, passed, h⟩ := bind_eq_ok.1 h
  obtain ⟨formula, read, h⟩ := bind_eq_ok.1 h
  cases h
  have passed := fieldsOf_eq_ok_iff.1 passed
  cases item with
  | object fields =>
    have declared : (statementSchema.fields.map Record.Field.name).Nodup := by
      simp [statementSchema, Record.Field.any, Record.Field.flag]
    obtain ⟨rfl, filled⟩ := Record.filled_of_fieldsOf declared passed
    obtain ⟨-, flags⟩ := filled_statement_iff.1 filled
    obtain ⟨node, found, read⟩ := decodeNode_eq_ok_iff.1 read
    refine ⟨node, ?_, read⟩
    unfold Record.flagOf
    cases flag : Bindings.get? "visible" checked with
    | none => exact .silentRecord found flag
    | some json =>
      obtain ⟨b, rfl⟩ := flags json flag
      exact .record found flag
  | array items =>
    rcases items with _ | ⟨node, _ | ⟨visible, rest⟩⟩
    · cases passed
    · cases passed
      exact ⟨node, .single node, objectOnly_eq_ok_iff.1 read⟩
    · cases visible with
      | bool b =>
        cases rest with
        | nil =>
          cases passed
          exact ⟨node, .pair node b, objectOnly_eq_ok_iff.1 read⟩
        | cons more rest => cases passed
      | _ => cases passed
  | _ => cases passed

theorem decodeStatement_of_readsEntry {item : Json} {statement : Formula × Bool}
    (keyed : item.Keyed) (reads : registry.ReadsEntry item statement) :
    registry.decodeStatement item = .ok statement := by
  obtain ⟨formula, visible⟩ := statement
  obtain ⟨node, entry, read⟩ := reads
  have record {fields : List (String × Json)} (keyed : (Json.object fields).Keyed)
      (found : Bindings.get? "node" fields = some node)
      (flags : ∀ json, Bindings.get? "visible" fields = some json → ∃ b, json = .bool b) :
      registry.decodeStatement (.object fields)
        = .ok (formula, Record.flagOf "visible" fields) := by
    have filled := filled_statement_iff.2 ⟨⟨node, found⟩, flags⟩
    have passed := Record.fieldsOf_eq_ok keyed.1.nodup filled
    exact bind_eq_ok.2 ⟨fields, fieldsOf_eq_ok_iff.2 passed,
      bind_eq_ok.2 ⟨formula, decodeNode_eq_ok_iff.2 ⟨node, found, read⟩, rfl⟩⟩
  cases entry with
  | record found flag =>
    rw [record keyed found (by simp [flag]), Record.flagOf, flag]
  | silentRecord found silent =>
    rw [record keyed found (by simp [silent]), Record.flagOf, silent]
  | single | pair =>
    exact bind_eq_ok.2 ⟨_, rfl, bind_eq_ok.2 ⟨_, objectOnly_eq_ok_iff.2 read, rfl⟩⟩

theorem readsEntry_of_decodeEntries {items : List Json} {statements : List (Formula × Bool)}
    (h : registry.decodeEntries items = .ok statements) :
    List.Forall₂ registry.ReadsEntry items statements := by
  rw [decodeEntries_eq_mapM] at h
  exact (mapM_eq_ok.1 h).imp fun _ _ => readsEntry_of_decodeStatement

theorem decodeEntries_of_readsEntry {items : List Json} {statements : List (Formula × Bool)}
    (keyed : (Json.array items).Keyed) (h : List.Forall₂ registry.ReadsEntry items statements) :
    registry.decodeEntries items = .ok statements := by
  rw [decodeEntries_eq_mapM, mapM_eq_ok]
  exact forall₂_imp_mem h fun item mem statement reads =>
    decodeStatement_of_readsEntry (Json.keyed_of_mem keyed mem) reads

end entries

/-- The tag that a record is read by stands for the kind of the formula, and the formula is what the
fields come to. -/
theorem reads_of_decodeAs (builtIn : registry.BuiltIn) {tag : Option String}
    {fields : List (String × Json)} {formula : Formula}
    (h : registry.decodeAs tag (.object fields) = .ok formula) :
    (∃ name, tagFor fields tag = .ok name ∧
        registry.reading name = .ok (.kind formula.kind)) ∧
      registry.Reads fields formula := by
  unfold decodeAs at h
  obtain ⟨name, own, h⟩ := bind_eq_ok.1 h
  obtain ⟨reading, resolved, h⟩ := bind_eq_ok.1 h
  obtain ⟨kind, rfl⟩ := builtIn.reading resolved
  obtain ⟨checked, passed, h⟩ := bind_eq_ok.1 h
  obtain ⟨-, filled⟩ :=
    Record.filled_of_fieldsOf (names_schema_nodup kind) (fieldsOf_eq_ok_iff.1 passed)
  cases kind with
  | constant =>
    obtain ⟨json, found, h⟩ := bind_eq_ok.1 h
    obtain ⟨value, read, rfl⟩ := map_eq_ok.1 h
    exact ⟨⟨name, own, resolved⟩, .constant (Value.field_eq_ok_iff.1 found) read⟩
  | symbol =>
    cases h
    simp only [schema, List.forall_mem_singleton, Record.filled_text_iff] at filled
    obtain ⟨text, found⟩ := filled
    rw [textOf_eq found]
    exact ⟨⟨name, own, resolved⟩, .symbol found⟩
  | assignment =>
    obtain ⟨target, read, h⟩ := bind_eq_ok.1 h
    obtain ⟨value, read', h⟩ := bind_eq_ok.1 h
    obtain ⟨rfl, isSymbol⟩ := Formula.checkedAssignment_shape h
    obtain ⟨json, found, read⟩ := decodePart_eq_ok_iff.1 read
    obtain ⟨json', found', read'⟩ := decodePart_eq_ok_iff.1 read'
    exact ⟨⟨name, own, resolved⟩, .assignment found read isSymbol found' read'⟩
  | block =>
    obtain ⟨statements, read, h⟩ := bind_eq_ok.1 h
    obtain ⟨rfl, shape⟩ := Formula.checkedBlock_shape h
    obtain ⟨items, found, read⟩ := decodeStatements_eq_ok_iff.1 read
    exact ⟨⟨name, own, resolved⟩, .block found (readsEntry_of_decodeEntries read) shape⟩
  | operation =>
    obtain ⟨operands, read, h⟩ := bind_eq_ok.1 h
    obtain ⟨rfl, shape⟩ := Formula.checkedOperation_shape h
    obtain ⟨items, found, read⟩ := decodeParts_eq_ok_iff.1 read
    simp only [schema, List.forall_mem_cons, Record.filled_text_iff] at filled
    obtain ⟨⟨op, found_op⟩, ⟨function, found_fn⟩, -⟩ := filled
    rw [textOf_eq found_op, textOf_eq found_fn] at shape ⊢
    exact ⟨⟨name, own, resolved⟩,
      .operation found_op found_fn found (decodeItems_eq_ok_iff.1 read) shape⟩
  | parenthesis =>
    obtain ⟨content, read, rfl⟩ := map_eq_ok.1 h
    obtain ⟨json, found, read⟩ := decodePart_eq_ok_iff.1 read
    exact ⟨⟨name, own, resolved⟩, .parenthesis found read⟩
  | call =>
    obtain ⟨arguments, read, rfl⟩ := map_eq_ok.1 h
    obtain ⟨items, found, read⟩ := decodeParts_eq_ok_iff.1 read
    simp only [schema, List.forall_mem_cons, Record.filled_text_iff] at filled
    obtain ⟨⟨function, found_fn⟩, -⟩ := filled
    rw [textOf_eq found_fn]
    exact ⟨⟨name, own, resolved⟩, .call found_fn found (decodeItems_eq_ok_iff.1 read)⟩
  | conditional =>
    obtain ⟨conditions, read, h⟩ := bind_eq_ok.1 h
    obtain ⟨blocks, read', h⟩ := bind_eq_ok.1 h
    obtain ⟨rfl, shape⟩ := Formula.checkedConditional_shape h
    obtain ⟨items, found, read⟩ := decodeParts_eq_ok_iff.1 read
    obtain ⟨items', found', read'⟩ := decodeParts_eq_ok_iff.1 read'
    exact ⟨⟨name, own, resolved⟩, .conditional found (decodeItems_eq_ok_iff.1 read) found'
      (decodeItems_eq_ok_iff.1 read') shape⟩

theorem filled_of_reads {fields : List (String × Json)} {formula : Formula}
    (reads : registry.Reads fields formula) :
    ∀ field ∈ (schema formula.kind).fields, field.Filled fields := by
  cases reads with
  | constant found read => simpa [Formula.kind, schema, filled_value_iff] using ⟨_, found, _, read⟩
  | _ => simp_all [Formula.kind, schema, Record.filled_any_iff, Record.filled_text_iff]

/-- A record with a tag for the kind of a formula, and with fields that come to the formula, is
decoded to it. -/
theorem decode_of_reads (builtIn : registry.BuiltIn) {fields : List (String × Json)}
    {formula : Formula} (keyed : (Json.object fields).Keyed)
    (reads : registry.Reads fields formula)
    (tagged : registry.Tagged formula.kind (.object fields)) :
    registry.decode (.object fields) = .ok formula := by
  obtain ⟨tag, own, bound⟩ := tagged
  have own := tagFor_none_eq_ok_iff.2 own
  have resolved := builtIn.reading_eq_ok_iff.2 bound
  have passed : fieldsOf formula.kind (schema formula.kind) (.object fields) = .ok fields :=
    fieldsOf_eq_ok_iff.2 (Record.fieldsOf_eq_ok keyed.1.nodup (filled_of_reads reads))
  unfold decode decodeAs
  refine bind_eq_ok.2 ⟨tag, own, bind_eq_ok.2 ⟨_, resolved, bind_eq_ok.2 ⟨fields, passed, ?_⟩⟩⟩
  cases reads with
  | constant found read =>
    exact bind_eq_ok.2 ⟨_, Value.field_eq_ok_iff.2 found, map_eq_ok.2 ⟨_, read, rfl⟩⟩
  | symbol found =>
    rw [← textOf_eq found]
    rfl
  | assignment found read isSymbol found' read' =>
    exact bind_eq_ok.2 ⟨_, decodePart_eq_ok_iff.2 ⟨_, found, read⟩, bind_eq_ok.2
      ⟨_, decodePart_eq_ok_iff.2 ⟨_, found', read'⟩, Formula.checkedAssignment_eq_ok isSymbol _⟩⟩
  | block found each shape =>
    have read := decodeEntries_of_readsEntry (Json.keyed_of_get? keyed.2 found) each
    exact bind_eq_ok.2 ⟨_, decodeStatements_eq_ok_iff.2 ⟨_, found, read⟩,
      Formula.checkedBlock_eq_ok shape⟩
  | operation found_op found_fn found each shape =>
    rw [← textOf_eq found_op, ← textOf_eq found_fn]
    exact bind_eq_ok.2 ⟨_, decodeParts_eq_ok_iff.2 ⟨_, found, decodeItems_eq_ok_iff.2 each⟩,
      Formula.checkedOperation_eq_ok shape⟩
  | parenthesis found read =>
    exact map_eq_ok.2 ⟨_, decodePart_eq_ok_iff.2 ⟨_, found, read⟩, rfl⟩
  | call found_fn found each =>
    rw [← textOf_eq found_fn]
    exact map_eq_ok.2 ⟨_, decodeParts_eq_ok_iff.2 ⟨_, found, decodeItems_eq_ok_iff.2 each⟩, rfl⟩
  | conditional found each found' each' shape =>
    exact bind_eq_ok.2 ⟨_, decodeParts_eq_ok_iff.2 ⟨_, found, decodeItems_eq_ok_iff.2 each⟩,
      bind_eq_ok.2 ⟨_, decodeParts_eq_ok_iff.2 ⟨_, found', decodeItems_eq_ok_iff.2 each'⟩,
        Formula.checkedConditional_eq_ok shape⟩⟩

end FormulaTree.Registry
