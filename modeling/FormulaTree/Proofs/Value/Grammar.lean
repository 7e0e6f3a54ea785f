import FormulaTree.Proofs.Json.Parts
import FormulaTree.Proofs.Value.Fields

set_option autoImplicit false

namespace FormulaTree.Value

open Record (kindField)

inductive EncodedPart : Json → Prop where
  | number (n : Number) : EncodedPart (.number n)
  | name {text : String} (special : text ∈ ["NaN", "Infinity", "-Infinity"]) :
    EncodedPart (.string text)

inductive Encoded : Json → Prop where
  | null : Encoded .null
  | bool (b : Bool) : Encoded (.bool b)
  | number (n : Number) : Encoded (.number n)
  | string (text : String) : Encoded (.string text)
  | array {items : List Json} (each : ∀ item ∈ items, Encoded item) : Encoded (.array items)
  | numberRecord {fields : List (String × Json)} {part : Json}
    (kind : Bindings.get? kindField fields = some (.string "Number"))
    (value : Bindings.get? "value" fields = some part) (encoded : EncodedPart part) :
    Encoded (.object fields)
  | decimal {fields : List (String × Json)} {text : String} {d : Decimal}
    (kind : Bindings.get? kindField fields = some (.string "BigNumber"))
    (value : Bindings.get? "value" fields = some (.string text))
    (literal : Decimal.ofLiteral? text = some d) : Encoded (.object fields)
  | complex {fields : List (String × Json)} {re im : Json}
    (kind : Bindings.get? kindField fields = some (.string "Complex"))
    (real : Bindings.get? "re" fields = some re) (encodedReal : EncodedPart re)
    (imaginary : Bindings.get? "im" fields = some im) (encodedImaginary : EncodedPart im) :
    Encoded (.object fields)
  /-- The magnitude may be left out. -/
  | unit {fields : List (String × Json)} {name : String}
    (kind : Bindings.get? kindField fields = some (.string "Unit"))
    (magnitude : ∀ json, Bindings.get? "value" fields = some json →
      json = .null ∨ EncodedPart json)
    (unit : Bindings.get? "unit" fields = some (.string name)) : Encoded (.object fields)
  | matrix {fields : List (String × Json)} {items : List Json}
    (kind : Bindings.get? kindField fields = some (.string "DenseMatrix"))
    (data : Bindings.get? "data" fields = some (.array items))
    (each : ∀ item ∈ items, Encoded item) : Encoded (.object fields)
  | object {fields members : List (String × Json)}
    (kind : Bindings.get? kindField fields = some (.string "Object"))
    (entries : Bindings.get? "entries" fields = some (.object members))
    (each : ∀ member ∈ members, Encoded member.2) : Encoded (.object fields)
  | resultSet {fields : List (String × Json)} {items : List Json}
    (kind : Bindings.get? kindField fields = some (.string "ResultSet"))
    (entries : Bindings.get? "entries" fields = some (.array items))
    (each : ∀ item ∈ items, Encoded item) : Encoded (.object fields)

theorem partOfJson?_isSome_iff {json : Json} :
    (∃ x, partOfJson? json = some x) ↔ EncodedPart json := by
  constructor
  · rintro ⟨x, h⟩
    cases json with
    | number n => exact .number n
    | string text =>
      refine .name ?_
      by_contra other
      simp only [List.mem_cons, List.not_mem_nil, or_false, not_or] at other
      simp [partOfJson?, other] at h
    | _ => cases h
  · rintro (n | ⟨special⟩)
    · exact ⟨_, rfl⟩
    · simp only [List.mem_cons, List.not_mem_nil, or_false] at special
      rcases special with rfl | rfl | rfl <;> exact ⟨_, rfl⟩

theorem numberField_isOk_iff {kind name : String} {fields : List (String × Json)} :
    (∃ x, numberField kind name fields = .ok x) ↔
      ∃ json, Bindings.get? name fields = some json ∧ EncodedPart json := by
  simp only [numberField_eq_ok_iff, ← partOfJson?_isSome_iff, ← exists_and_left]
  exact exists_comm

theorem magnitudeField_isOk_iff {fields : List (String × Json)} :
    (∃ magnitude, magnitudeField fields = .ok magnitude) ↔
      ∀ json, Bindings.get? "value" fields = some json → json = .null ∨ EncodedPart json := by
  unfold magnitudeField
  split
  · rename_i absent
    simp [absent]
  · rename_i bare
    simp [bare]
  · rename_i json other found
    have part : (∃ x, numberField "Unit" "value" fields = .ok x) ↔ _ := numberField_isOk_iff
    simp_all [map_eq_ok]

theorem itemsOfJson_isOk_iff {items : List Json} :
    (∃ values, itemsOfJson items = .ok values) ↔
      ∀ item ∈ items, ∃ value, ofJson item = .ok value := by
  rw [itemsOfJson_eq_mapM]
  exact mapM_isOk_iff

theorem listField_isOk_iff {kind name : String} {fields : List (String × Json)} :
    (∃ values, listField kind name fields = .ok values) ↔
      ∃ items, Bindings.get? name fields = some (.array items) ∧
        ∀ item ∈ items, ∃ value, ofJson item = .ok value := by
  simp only [listField_eq_ok_iff, ← itemsOfJson_isOk_iff, ← exists_and_left]
  exact exists_comm

theorem entriesField_isOk_iff {fields : List (String × Json)} :
    (∃ values, entriesField fields = .ok values) ↔
      ∃ members, Bindings.get? "entries" fields = some (.object members) ∧
        ∀ member ∈ members, ∃ value, ofJson member.2 = .ok value := by
  have each (members : List (String × Json)) :
      (∃ values, entriesOfJson members = .ok values) ↔
        ∀ member ∈ members, ∃ value, ofJson member.2 = .ok value := by
    rw [entriesOfJson_eq_mapM, mapM_isOk_iff]
    simp [map_eq_ok]
  simp only [entriesField_eq_ok_iff, ← each, ← exists_and_left]
  exact exists_comm

theorem encoded_of_ofJson {json : Json} {value : Value} (h : ofJson json = .ok value) :
    Encoded json := by
  have each {items : List Json} (smaller : sizeOf (Json.array items) ≤ sizeOf json)
      (read : ∀ item ∈ items, ∃ value, ofJson item = .ok value) : ∀ item ∈ items, Encoded item := by
    intro item mem
    obtain ⟨value, read⟩ := read item mem
    have less := Json.sizeOf_item_lt mem
    exact encoded_of_ofJson read
  cases json with
  | null => exact .null
  | bool b => exact .bool b
  | number n => exact .number n
  | string text => exact .string text
  | array items =>
    obtain ⟨values, read, -⟩ := map_eq_ok.1 h
    exact .array (each le_rfl (itemsOfJson_isOk_iff.1 ⟨values, read⟩))
  | object fields =>
    unfold ofJson at h
    split at h
    · rename_i kind
      obtain ⟨x, read, -⟩ := map_eq_ok.1 h
      obtain ⟨part, found, encoded⟩ := numberField_isOk_iff.1 ⟨x, read⟩
      exact .numberRecord kind found encoded
    · rename_i kind
      obtain ⟨text, found, h⟩ := bind_eq_ok.1 h
      obtain ⟨d, literal, -⟩ := map_eq_ok.1 h
      exact .decimal kind (textField_eq_ok_iff.1 found) (decimalOfText_eq_ok_iff.1 literal)
    · rename_i kind
      obtain ⟨re, real, h⟩ := bind_eq_ok.1 h
      obtain ⟨im, imaginary, -⟩ := bind_eq_ok.1 h
      obtain ⟨re', found, encoded⟩ := numberField_isOk_iff.1 ⟨re, real⟩
      obtain ⟨im', found', encoded'⟩ := numberField_isOk_iff.1 ⟨im, imaginary⟩
      exact .complex kind found encoded found' encoded'
    · rename_i kind
      obtain ⟨magnitude, read, h⟩ := bind_eq_ok.1 h
      obtain ⟨name, found, -⟩ := bind_eq_ok.1 h
      exact .unit kind (magnitudeField_isOk_iff.1 ⟨magnitude, read⟩) (textField_eq_ok_iff.1 found)
    · rename_i kind
      obtain ⟨values, read, -⟩ := map_eq_ok.1 h
      obtain ⟨items, found, read⟩ := listField_isOk_iff.1 ⟨values, read⟩
      exact .matrix kind found (each (Json.sizeOf_field_lt found).le read)
    · rename_i kind
      obtain ⟨values, read, -⟩ := map_eq_ok.1 h
      obtain ⟨members, found, read⟩ := entriesField_isOk_iff.1 ⟨values, read⟩
      refine .object kind found fun member mem => ?_
      obtain ⟨value, read⟩ := read member mem
      have less := (Json.sizeOf_entry_lt mem).trans (Json.sizeOf_field_lt found)
      exact encoded_of_ofJson read
    · rename_i kind
      obtain ⟨values, read, -⟩ := map_eq_ok.1 h
      obtain ⟨items, found, read⟩ := listField_isOk_iff.1 ⟨values, read⟩
      exact .resultSet kind found (each (Json.sizeOf_field_lt found).le read)
    · cases h
    · cases h
termination_by sizeOf json

theorem exists_ofJson {json : Json} (h : Encoded json) : ∃ value, ofJson json = .ok value := by
  induction h with
  | null | bool | number | string => exact ⟨_, rfl⟩
  | array _ ih =>
    obtain ⟨values, read⟩ := itemsOfJson_isOk_iff.2 ih
    exact ⟨_, map_eq_ok.2 ⟨values, read, rfl⟩⟩
  | numberRecord kind found encoded =>
    obtain ⟨x, read⟩ := numberField_isOk_iff.2 ⟨_, found, encoded⟩
    simp only [ofJson, kind]
    exact ⟨_, map_eq_ok.2 ⟨x, read, rfl⟩⟩
  | decimal kind found literal =>
    simp only [ofJson, kind]
    exact ⟨_, bind_eq_ok.2 ⟨_, textField_eq_ok_iff.2 found,
      map_eq_ok.2 ⟨_, decimalOfText_eq_ok_iff.2 literal, rfl⟩⟩⟩
  | complex kind found encoded found' encoded' =>
    obtain ⟨re, real⟩ := numberField_isOk_iff.2 ⟨_, found, encoded⟩
    obtain ⟨im, imaginary⟩ := numberField_isOk_iff.2 ⟨_, found', encoded'⟩
    simp only [ofJson, kind]
    exact ⟨_, bind_eq_ok.2 ⟨re, real, bind_eq_ok.2 ⟨im, imaginary, rfl⟩⟩⟩
  | unit kind magnitude found =>
    obtain ⟨magnitude, read⟩ := magnitudeField_isOk_iff.2 magnitude
    simp only [ofJson, kind]
    exact ⟨_, bind_eq_ok.2 ⟨magnitude, read,
      bind_eq_ok.2 ⟨_, textField_eq_ok_iff.2 found, rfl⟩⟩⟩
  | matrix kind found _ ih =>
    obtain ⟨values, read⟩ := listField_isOk_iff.2 ⟨_, found, ih⟩
    simp only [ofJson, kind]
    exact ⟨_, map_eq_ok.2 ⟨values, read, rfl⟩⟩
  | object kind found _ ih =>
    obtain ⟨values, read⟩ := entriesField_isOk_iff.2 ⟨_, found, ih⟩
    simp only [ofJson, kind]
    exact ⟨_, map_eq_ok.2 ⟨values, read, rfl⟩⟩
  | resultSet kind found _ ih =>
    obtain ⟨values, read⟩ := listField_isOk_iff.2 ⟨_, found, ih⟩
    simp only [ofJson, kind]
    exact ⟨_, map_eq_ok.2 ⟨values, read, rfl⟩⟩

/-- The grammar says exactly which JSON is read as a value. -/
theorem ofJson_isOk_iff {json : Json} : (∃ value, ofJson json = .ok value) ↔ Encoded json :=
  ⟨fun ⟨_, read⟩ => encoded_of_ofJson read, exists_ofJson⟩

end FormulaTree.Value
