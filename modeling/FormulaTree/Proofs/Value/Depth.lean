import FormulaTree.Proofs.Json.Depth
import FormulaTree.Proofs.Value.Canonical
import FormulaTree.Proofs.Value.Keyed

set_option autoImplicit false

namespace FormulaTree.Value

open Bindings (names)
open Record (kindField)

mutual

def depth : Value → Nat
  | .null | .bool _ | .string _ => 0
  | .number x => if x.isFinite then 0 else 1
  | .decimal _ | .complex _ _ | .unit _ _ => 1
  | .matrix items | .resultSet items => itemsDepth items + 2
  | .object entries => entriesDepth entries + 2

def itemsDepth : List Value → Nat
  | [] => 0
  | item :: rest => max (depth item) (itemsDepth rest)

def entriesDepth : List (String × Value) → Nat
  | [] => 0
  | (_, value) :: rest => max (depth value) (entriesDepth rest)

end

theorem depth_tagged {kind : String} {fields : List (String × Json)}
    (distinct : (kindField :: names fields).Nodup) :
    (Record.tagged kind fields).depth = Json.fieldsDepth fields + 1 := by
  have whole : (names ((kindField, Json.string kind) :: fields)).Nodup := distinct
  have flat : (Json.string kind).depth = 0 := rfl
  rw [Record.tagged, Json.depth_ofFields whole, Json.fieldsDepth, flat, Nat.zero_max]

theorem depth_partToJson (x : Float) : (partToJson x).depth = 0 := by
  unfold partToJson
  split <;> rfl

theorem names_entriesToJson (entries : List (String × Value)) :
    names (entriesToJson entries) = names entries := by
  simp [names, entriesToJson_eq_map, Function.comp_def]

mutual

theorem depth_toJson : ∀ {value : Value}, value.Keyed → value.toJson.depth = value.depth
  | .null, _ | .bool _, _ | .string _, _ => rfl
  | .number x, _ => by
    unfold toJson depth
    split
    · rfl
    · exact depth_tagged (by simp [names, kindField])
  | .decimal d, _ => depth_tagged (by simp [names, kindField])
  | .complex re im, _ => by
    rw [toJson, depth_tagged (by simp [names, kindField])]
    simp [Json.fieldsDepth, depth_partToJson, depth]
  | .unit magnitude name, _ => by
    rw [toJson, depth_tagged (by simp [names, kindField])]
    cases magnitude <;> simp [Json.fieldsDepth, Json.depth, depth_partToJson, depth]
  | .matrix items, keyed | .resultSet items, keyed => by
    rw [toJson, depth_tagged (by simp [names, kindField])]
    simp [Json.fieldsDepth, Json.depth, depth, itemsDepth_itemsToJson keyed]
  | .object entries, keyed => by
    have distinct : (names (entriesToJson entries)).Nodup := names_entriesToJson entries ▸ keyed.1
    rw [toJson, depth_tagged (by simp [names, kindField])]
    simp [Json.fieldsDepth, Json.depth_ofFields distinct, depth,
      fieldsDepth_entriesToJson keyed.2]

theorem itemsDepth_itemsToJson : ∀ {items : List Value}, AllKeyed items →
    Json.itemsDepth (itemsToJson items) = itemsDepth items
  | [], _ => rfl
  | item :: rest, keyed => by
    rw [itemsToJson, Json.itemsDepth, depth_toJson keyed.1, itemsDepth_itemsToJson keyed.2,
      itemsDepth]

theorem fieldsDepth_entriesToJson : ∀ {entries : List (String × Value)}, EntriesKeyed entries →
    Json.fieldsDepth (entriesToJson entries) = entriesDepth entries
  | [], _ => rfl
  | (key, value) :: rest, keyed => by
    rw [entriesToJson, Json.fieldsDepth, depth_toJson keyed.1, fieldsDepth_entriesToJson keyed.2,
      entriesDepth]

end

end FormulaTree.Value
