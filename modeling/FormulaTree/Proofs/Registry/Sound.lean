import FormulaTree.Proofs.Formula.Sound
import FormulaTree.Proofs.Registry.Reading

set_option autoImplicit false

namespace FormulaTree.Registry

variable {registry : Registry}

theorem sound_of_reads {fields : List (String × Json)} {formula : Formula}
    (keyed : Json.FieldsKeyed fields)
    (below : ∀ {json : Json} {formula : Formula}, sizeOf json < sizeOf (Json.object fields) →
      json.Keyed → registry.decode json = .ok formula → formula.Sound)
    (reads : registry.Reads fields formula) : formula.Sound := by
  have part {name : String} {json : Json} {formula : Formula}
      (found : Bindings.get? name fields = some json) (read : registry.decode json = .ok formula) :
      formula.Sound :=
    below (Json.sizeOf_field_lt found) (Json.keyed_of_get? keyed found) read
  have parts {name : String} {items : List Json} {formulas : List Formula}
      (found : Bindings.get? name fields = some (.array items))
      (each : List.Forall₂ (fun item formula => registry.decode item = .ok formula)
        items formulas) : ∀ formula ∈ formulas, formula.Sound := by
    intro formula mem
    obtain ⟨item, item_mem, read⟩ := exists_of_forall₂ each formula mem
    exact below ((Json.sizeOf_item_lt item_mem).trans (Json.sizeOf_field_lt found))
      (Json.keyed_of_mem (Json.keyed_of_get? keyed found) item_mem) read
  cases reads with
  | constant found read =>
    exact Formula.sound_constant_iff.2 (Value.keyed_of_ofJson (Json.keyed_of_get? keyed found) read)
  | symbol => exact Formula.sound_symbol _
  | assignment found read isSymbol found' read' =>
    exact Formula.sound_assignment_iff.2 ⟨isSymbol, part found read, part found' read'⟩
  | block found each shape =>
    refine Formula.sound_block_iff.2 ⟨shape, fun statement mem => ?_⟩
    obtain ⟨item, item_mem, node, entry, read⟩ := exists_of_forall₂ each statement mem
    have item_keyed := Json.keyed_of_mem (Json.keyed_of_get? keyed found) item_mem
    have smaller := entry.sizeOf_lt.trans
      ((Json.sizeOf_item_lt item_mem).trans (Json.sizeOf_field_lt found))
    exact below smaller (entry.keyed item_keyed) read
  | operation _ _ found each shape =>
    exact Formula.sound_operation_iff.2 ⟨shape, parts found each⟩
  | parenthesis found read => exact Formula.sound_parenthesis_iff.2 (part found read)
  | call _ found each => exact Formula.sound_call_iff.2 (parts found each)
  | conditional found each found' each' shape =>
    exact Formula.sound_conditional_iff.2 ⟨shape, parts found each, parts found' each'⟩

theorem sound_of_decode (builtIn : registry.BuiltIn) : ∀ {json : Json} {formula : Formula},
    json.Keyed → registry.decode json = .ok formula → formula.Sound
  | .object _, _, keyed, h =>
    sound_of_reads keyed.2 (fun smaller keyed read => sound_of_decode builtIn keyed read)
      (reads_of_decodeAs builtIn h).2
  | .null, _, _, h | .bool _, _, _, h | .number _, _, _, h | .string _, _, _, h
  | .array _, _, _, h => by cases h
termination_by json => sizeOf json
decreasing_by exact smaller

theorem sound_of_decodeAs (builtIn : registry.BuiltIn) {tag : Option String}
    {fields : List (String × Json)} {formula : Formula} (keyed : Json.FieldsKeyed fields)
    (h : registry.decodeAs tag (.object fields) = .ok formula) : formula.Sound :=
  sound_of_reads keyed (fun _ keyed read => sound_of_decode builtIn keyed read)
    (reads_of_decodeAs builtIn h).2

theorem fieldsKeyed_of_assign {schema : Record.Schema} {length : Nat}
    {fields : List Record.Field} {items : List Json} {assigned : List (String × Json)}
    (keyed : Json.AllKeyed items) (h : schema.assign length fields items = .ok assigned) :
    Json.FieldsKeyed assigned := by
  induction fields generalizing items assigned with
  | nil =>
    cases items with
    | nil =>
      cases h
      trivial
    | cons item items => cases h
  | cons field fields ih =>
    cases items with
    | nil =>
      unfold Record.Schema.assign at h
      split at h
      · exact ih keyed h
      · cases h
    | cons item items =>
      obtain ⟨checked, -, h⟩ := bind_eq_ok.1 h
      obtain ⟨rest, hr, h⟩ := bind_eq_ok.1 h
      cases h
      exact ⟨keyed.1, ih keyed.2 hr⟩

theorem fieldsKeyed_of_fieldsOf {kind : Formula.Kind} {schema : Record.Schema} {json : Json}
    {fields : List (String × Json)} (keyed : json.Keyed)
    (h : fieldsOf kind schema json = .ok fields) : Json.FieldsKeyed fields := by
  have read := fieldsOf_eq_ok_iff.1 h
  cases json with
  | object object =>
    obtain ⟨checked, -, read⟩ := bind_eq_ok.1 read
    cases read
    exact keyed.2
  | array items => exact fieldsKeyed_of_assign keyed read
  | _ => cases read

theorem sound_of_decodeTagged {tag : String} {json : Json} {formula : Formula}
    (builtIn : registry.BuiltIn) (keyed : json.Keyed)
    (h : registry.decodeTagged tag json = .ok formula) : formula.Sound := by
  unfold decodeTagged at h
  split at h
  · exact sound_of_decodeAs builtIn keyed.2 h
  · obtain ⟨reading, hr, h⟩ := bind_eq_ok.1 h
    obtain ⟨kind, rfl⟩ := builtIn.reading hr
    obtain ⟨fields, hf, h⟩ := bind_eq_ok.1 h
    exact sound_of_decodeAs builtIn (fieldsKeyed_of_fieldsOf keyed hf) h

theorem sound_of_decodeText {codec : Json.Codec} {text : String} {formula : Formula}
    (builtIn : registry.BuiltIn) (keyed : codec.ReadsKeyed)
    (h : registry.decodeText codec text = .ok formula) : formula.Sound := by
  unfold decodeText at h
  split at h
  · rename_i json read
    exact sound_of_decode builtIn (keyed read) h
  · cases h

end FormulaTree.Registry
