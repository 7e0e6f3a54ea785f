import FormulaTree.Proofs.Json.Keyed

set_option autoImplicit false

namespace FormulaTree.Json

theorem sizeOf_item_lt {item : Json} {items : List Json} (h : item ∈ items) :
    sizeOf item < sizeOf (Json.array items) := by
  have small := List.sizeOf_lt_of_mem h
  simp only [array.sizeOf_spec]
  omega

theorem sizeOf_entry_lt {field : String × Json} {fields : List (String × Json)}
    (h : field ∈ fields) : sizeOf field.2 < sizeOf (Json.object fields) := by
  have small := List.sizeOf_lt_of_mem h
  obtain ⟨name, json⟩ := field
  simp only [Prod.mk.sizeOf_spec] at small
  simp only [object.sizeOf_spec]
  omega

theorem sizeOf_field_lt {name : String} {json : Json} {fields : List (String × Json)}
    (h : Bindings.get? name fields = some json) : sizeOf json < sizeOf (Json.object fields) :=
  sizeOf_entry_lt (Bindings.mem_of_get? h)

theorem keyed_of_mem {item : Json} {items : List Json} (keyed : (Json.array items).Keyed)
    (h : item ∈ items) : item.Keyed :=
  (allKeyed_iff items).1 keyed item h

theorem keyed_of_get? {name : String} {json : Json} {fields : List (String × Json)}
    (keyed : FieldsKeyed fields) (h : Bindings.get? name fields = some json) : json.Keyed :=
  (fieldsKeyed_iff fields).1 keyed _ (Bindings.mem_of_get? h)

end FormulaTree.Json
