import FormulaTree.Proofs.Registry.Reading
import FormulaTree.Proofs.Value.Grammar

set_option autoImplicit false

namespace FormulaTree.Registry

/-- The records that are decoded. -/
inductive Accepted (registry : Registry) : Json → Prop where
  | constant {fields : List (String × Json)} {value : Json}
    (tagged : registry.Tagged .constant (.object fields))
    (value_field : Bindings.get? "value" fields = some value)
    (encoded : Value.Encoded value) : Accepted registry (.object fields)
  | symbol {fields : List (String × Json)} {name : String}
    (tagged : registry.Tagged .symbol (.object fields))
    (name_field : Bindings.get? "name" fields = some (.string name)) :
    Accepted registry (.object fields)
  | assignment {fields : List (String × Json)} {target value : Json}
    (tagged : registry.Tagged .assignment (.object fields))
    (object_field : Bindings.get? "object" fields = some target)
    (isSymbol : registry.Tagged .symbol target) (target_accepted : Accepted registry target)
    (value_field : Bindings.get? "value" fields = some value)
    (value_accepted : Accepted registry value) : Accepted registry (.object fields)
  | block {fields : List (String × Json)} {items : List Json}
    (tagged : registry.Tagged .block (.object fields))
    (blocks_field : Bindings.get? "blocks" fields = some (.array items)) (nonempty : items ≠ [])
    (entries : ∀ item ∈ items, ∃ node visible, Entry item node visible)
    (each : ∀ item ∈ items, ∀ node visible, Entry item node visible → Accepted registry node) :
    Accepted registry (.object fields)
  | operation {fields : List (String × Json)} {op function : String} {items : List Json}
    (tagged : registry.Tagged .operation (.object fields))
    (op_field : Bindings.get? "op" fields = some (.string op))
    (fn_field : Bindings.get? "fn" fields = some (.string function))
    (args_field : Bindings.get? "args" fields = some (.array items))
    (count : items.length = 1 ∨ items.length = 2)
    (each : ∀ item ∈ items, Accepted registry item) : Accepted registry (.object fields)
  | parenthesis {fields : List (String × Json)} {content : Json}
    (tagged : registry.Tagged .parenthesis (.object fields))
    (content_field : Bindings.get? "content" fields = some content)
    (content_accepted : Accepted registry content) : Accepted registry (.object fields)
  | call {fields : List (String × Json)} {function : String} {items : List Json}
    (tagged : registry.Tagged .call (.object fields))
    (fn_field : Bindings.get? "fn" fields = some (.string function))
    (args_field : Bindings.get? "args" fields = some (.array items))
    (each : ∀ item ∈ items, Accepted registry item) : Accepted registry (.object fields)
  | conditional {fields : List (String × Json)} {conditions blocks : List Json}
    (tagged : registry.Tagged .conditional (.object fields))
    (conditions_field : Bindings.get? "conditions" fields = some (.array conditions))
    (blocks_field : Bindings.get? "blockNodes" fields = some (.array blocks))
    (nonempty : conditions ≠ [])
    (count : blocks.length = conditions.length ∨ blocks.length = conditions.length + 1)
    (each_condition : ∀ condition ∈ conditions, Accepted registry condition)
    (each_block : ∀ block ∈ blocks, Accepted registry block) : Accepted registry (.object fields)

variable {registry : Registry}

theorem tagged_of_decode (builtIn : registry.BuiltIn) {json : Json} {formula : Formula}
    (h : registry.decode json = .ok formula) : registry.Tagged formula.kind json := by
  cases json with
  | object fields =>
    obtain ⟨⟨tag, own, resolved⟩, -⟩ := reads_of_decodeAs builtIn h
    exact ⟨tag, tagFor_none_eq_ok_iff.1 own, builtIn.reading_eq_ok_iff.1 resolved⟩
  | _ => cases h

/-- A record with fields that come to a formula is accepted, if that is so for all JSON that is
smaller and decoded. -/
theorem accepted_of_reads (builtIn : registry.BuiltIn) {fields : List (String × Json)}
    {formula : Formula} (tagged : registry.Tagged formula.kind (.object fields))
    (below : ∀ {json : Json} {formula : Formula}, sizeOf json < sizeOf (Json.object fields) →
      registry.decode json = .ok formula → registry.Accepted json)
    (reads : registry.Reads fields formula) : registry.Accepted (.object fields) := by
  have part {name : String} {json : Json} {formula : Formula}
      (found : Bindings.get? name fields = some json) (read : registry.decode json = .ok formula) :
      registry.Accepted json :=
    below (Json.sizeOf_field_lt found) read
  have parts {name : String} {items : List Json} {formulas : List Formula}
      (found : Bindings.get? name fields = some (.array items))
      (each : List.Forall₂ (fun item formula => registry.decode item = .ok formula)
        items formulas) : ∀ item ∈ items, registry.Accepted item := by
    intro item mem
    obtain ⟨formula, read⟩ := exists_forall₂_iff.1 ⟨formulas, each⟩ item mem
    exact below ((Json.sizeOf_item_lt mem).trans (Json.sizeOf_field_lt found)) read
  cases reads with
  | constant found read => exact .constant tagged found (Value.encoded_of_ofJson read)
  | symbol found => exact .symbol tagged found
  | assignment found read isSymbol found' read' =>
    have symbol_tagged := tagged_of_decode builtIn read
    rw [isSymbol] at symbol_tagged
    exact .assignment tagged found symbol_tagged (part found read) found' (part found' read')
  | block found each nonempty =>
    have entry := exists_forall₂_iff.1 ⟨_, each⟩
    refine .block tagged found ?_ (fun item mem => ?_) fun item mem node visible isEntry => ?_
    · rintro rfl
      exact nonempty (List.forall₂_nil_left_iff.1 each)
    · obtain ⟨statement, node, isEntry, -⟩ := entry item mem
      exact ⟨node, statement.2, isEntry⟩
    · obtain ⟨statement, node', isEntry', read⟩ := entry item mem
      obtain rfl := isEntry.unique isEntry'
      exact below (isEntry.sizeOf_lt.trans
        ((Json.sizeOf_item_lt mem).trans (Json.sizeOf_field_lt found))) read
  | operation found_op found_fn found each shape =>
    have shape : _ = 1 ∨ _ = 2 := shape
    rw [← each.length_eq] at shape
    exact .operation tagged found_op found_fn found shape (parts found each)
  | parenthesis found read => exact .parenthesis tagged found (part found read)
  | call found_fn found each => exact .call tagged found_fn found (parts found each)
  | conditional found each found' each' shape =>
    obtain ⟨nonempty, shape⟩ := shape
    rw [← each.length_eq, ← each'.length_eq] at shape
    refine .conditional tagged found found' ?_ shape (parts found each) (parts found' each')
    rintro rfl
    exact nonempty (List.forall₂_nil_left_iff.1 each)

/-- What is decoded is accepted. -/
theorem accepted_of_decode (builtIn : registry.BuiltIn) : ∀ {json : Json} {formula : Formula},
    registry.decode json = .ok formula → registry.Accepted json
  | .object _, _, h =>
    accepted_of_reads builtIn (tagged_of_decode builtIn h)
      (fun smaller read => accepted_of_decode builtIn read) (reads_of_decodeAs builtIn h).2
  | .null, _, h | .bool _, _, h | .number _, _, h | .string _, _, h | .array _, _, h => by cases h
termination_by json => sizeOf json
decreasing_by exact smaller

/-- What is accepted is decoded. -/
theorem exists_decode (builtIn : registry.BuiltIn) {json : Json} (h : registry.Accepted json)
    (keyed : json.Keyed) : ∃ formula, registry.decode json = .ok formula := by
  have parts {fields : List (String × Json)} {name : String} {items : List Json}
      (keyed : (Json.object fields).Keyed)
      (found : Bindings.get? name fields = some (.array items))
      (ih : ∀ item ∈ items, item.Keyed → ∃ formula, registry.decode item = .ok formula) :
      ∃ formulas, List.Forall₂ (fun item formula => registry.decode item = .ok formula)
        items formulas :=
    exists_forall₂_iff.2 fun item mem =>
      ih item mem (Json.keyed_of_mem (Json.keyed_of_get? keyed.2 found) mem)
  induction h with
  | constant tagged found encoded =>
    obtain ⟨value, read⟩ := Value.exists_ofJson encoded
    exact ⟨_, decode_of_reads builtIn keyed (.constant found read) tagged⟩
  | symbol tagged found => exact ⟨_, decode_of_reads builtIn keyed (.symbol found) tagged⟩
  | assignment tagged found symbol_tagged _ found' _ ih ih' =>
    obtain ⟨target, read⟩ := ih (Json.keyed_of_get? keyed.2 found)
    obtain ⟨value, read'⟩ := ih' (Json.keyed_of_get? keyed.2 found')
    have isSymbol := (tagged_of_decode builtIn read).unique symbol_tagged
    exact ⟨_, decode_of_reads builtIn keyed (.assignment found read isSymbol found' read') tagged⟩
  | @block fields items tagged found nonempty entries _ ih =>
    have each : ∀ item ∈ items, ∃ statement, registry.ReadsEntry item statement := by
      intro item mem
      obtain ⟨node, visible, entry⟩ := entries item mem
      have item_keyed := Json.keyed_of_mem (Json.keyed_of_get? keyed.2 found) mem
      obtain ⟨formula, read⟩ := ih item mem node visible entry (entry.keyed item_keyed)
      exact ⟨(formula, visible), node, entry, read⟩
    obtain ⟨statements, each⟩ := exists_forall₂_iff.2 each
    refine ⟨_, decode_of_reads builtIn keyed (.block found each ?_) tagged⟩
    rintro rfl
    exact nonempty (List.forall₂_nil_right_iff.1 each)
  | operation tagged found_op found_fn found shape _ ih =>
    obtain ⟨operands, each⟩ := parts keyed found ih
    rw [each.length_eq] at shape
    exact ⟨_, decode_of_reads builtIn keyed (.operation found_op found_fn found each shape) tagged⟩
  | parenthesis tagged found _ ih =>
    obtain ⟨content, read⟩ := ih (Json.keyed_of_get? keyed.2 found)
    exact ⟨_, decode_of_reads builtIn keyed (.parenthesis found read) tagged⟩
  | call tagged found_fn found _ ih =>
    obtain ⟨arguments, each⟩ := parts keyed found ih
    exact ⟨_, decode_of_reads builtIn keyed (.call found_fn found each) tagged⟩
  | conditional tagged found found' nonempty shape _ _ ih ih' =>
    obtain ⟨conditions, each⟩ := parts keyed found ih
    obtain ⟨blocks, each'⟩ := parts keyed found' ih'
    rw [each.length_eq, each'.length_eq] at shape
    refine ⟨_, decode_of_reads builtIn keyed
      (.conditional found each found' each' ⟨?_, shape⟩) tagged⟩
    rintro rfl
    exact nonempty (List.forall₂_nil_right_iff.1 each)

/-- The decoder of a registry that binds its tags to the eight kinds comes to a formula exactly for
the records that the grammar accepts, a formula of the kind that the tag is bound to, and to an
error for all other JSON. -/
theorem decode_isOk_iff (builtIn : registry.BuiltIn) {json : Json} (keyed : json.Keyed) :
    ((∃ formula, registry.decode json = .ok formula) ↔ registry.Accepted json) ∧
      ((∃ e, registry.decode json = .error e) ↔ ¬ registry.Accepted json) ∧
      ∀ formula, registry.decode json = .ok formula → registry.Tagged formula.kind json := by
  have accepted : (∃ formula, registry.decode json = .ok formula) ↔ registry.Accepted json :=
    ⟨fun ⟨_, read⟩ => accepted_of_decode builtIn read,
      fun accepted => exists_decode builtIn accepted keyed⟩
  refine ⟨accepted, ?_, fun formula read => tagged_of_decode builtIn read⟩
  rw [← accepted]
  cases registry.decode json <;> simp

/-- Statements as arrays and as a record, with a symbol under a tag of its own. -/
theorem decode_isOk_iff_alias :
    let registry := standard.register "Name" (.direct (.kind .symbol))
    let value := Json.object [("kind", .string "Unit"), ("unit", .string "cm")]
    let json := Json.object [("blocks", .array [
        .array [.object [("kind", .string "ConstantNode"), ("value", value)], .bool false],
        .object [("node", .object [("kind", .string "Name"), ("name", .string "x")])]]),
      ("kind", .string "BlockNode")]
    registry.BuiltIn ∧ json.Keyed ∧ registry.Accepted json ∧
      registry.decode json
        = .ok (.block [(.constant (.unit none "cm"), false), (.symbol "x", true)]) := by
  intro registry value json
  have builtIn : registry.BuiltIn := builtIn_standard.register "Name" .symbol
  have keyed : json.Keyed := by
    simp only [json, value, Json.Keyed, Json.AllKeyed, Json.FieldsKeyed, Bindings.Ascending]
    decide
  have decoded : registry.decode json
      = .ok (.block [(.constant (.unit none "cm"), false), (.symbol "x", true)]) := rfl
  exact ⟨builtIn, keyed, (decode_isOk_iff builtIn keyed).1.1 ⟨_, decoded⟩, decoded⟩

end FormulaTree.Registry
