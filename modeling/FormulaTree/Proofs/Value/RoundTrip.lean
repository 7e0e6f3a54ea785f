import FormulaTree.Proofs.Decimal.Literal
import FormulaTree.Proofs.Record
import FormulaTree.Proofs.Value.Canonical
import FormulaTree.Proofs.Value.Fields

set_option autoImplicit false

namespace FormulaTree

theorem Double.canonical_of_isFinite {x : Float} (h : x.isFinite = true) :
    Double.canonical x = x := by
  rw [Double.canonical, (Double.isNaN_isInf_of_isFinite h).1]
  rfl

namespace Value

open Bindings (names)
open Record (exists_tagged kindField)

theorem partOfJson?_writeNumber {x : Float} (h : x.isFinite = false) :
    partOfJson? (.string (writeNumber x)) = some (Double.canonical x) := by
  unfold writeNumber Double.canonical
  cases nan : x.isNaN with
  | true => rfl
  | false =>
    have infinite : x.isInf = true := by
      rcases Double.isNaN_or_isInf h with found | found
      · rw [nan] at found
        cases found
      · exact found
    have same := Double.eq_infinity infinite
    simp only [Bool.false_eq_true, if_false, infinite, if_true]
    split
    · rename_i positive
      rw [if_pos positive] at same
      rw [same]
      rfl
    · rename_i negative
      rw [if_neg negative] at same
      rw [same]
      rfl

theorem partOfJson?_partToJson (x : Float) :
    partOfJson? (partToJson x) = some (Double.canonical x) := by
  unfold partToJson
  cases finite : x.isFinite with
  | true =>
    rw [Double.canonical_of_isFinite finite]
    rfl
  | false => exact partOfJson?_writeNumber finite

theorem entriesOfJson_map {entries : List (String × Value)}
    (h : ∀ entry ∈ entries, ofJson entry.2.toJson = .ok entry.2.canonical) :
    entriesOfJson (entries.map fun entry => (entry.1, entry.2.toJson))
      = .ok (entries.map fun entry => (entry.1, entry.2.canonical)) := by
  induction entries with
  | nil => rfl
  | cons entry rest ih =>
    obtain ⟨key, value⟩ := entry
    obtain ⟨first, later⟩ := List.forall_mem_cons.1 h
    simp only at first
    simp only [List.map_cons, entriesOfJson, first, ih later]
    rfl

theorem partToJson_ne_null (x : Float) : partToJson x ≠ .null := by
  unfold partToJson
  split <;> simp

theorem magnitudeField_eq {fields : List (String × Json)} {magnitude : Option Float}
    (h : Bindings.get? "value" fields = some ((magnitude.map partToJson).getD .null)) :
    magnitudeField fields = .ok (magnitude.map Double.canonical) := by
  cases magnitude with
  | none => rw [magnitudeField, h, Option.map_none, Option.getD_none, Option.map_none]
  | some x =>
    have found : Bindings.get? "value" fields = some (partToJson x) := h
    unfold magnitudeField
    split
    · rename_i absent
      rw [found] at absent
      cases absent
    · rename_i bare
      rw [found] at bare
      exact absurd (Option.some.inj bare) (partToJson_ne_null x)
    · exact map_eq_ok.2 ⟨_, numberField_eq_ok_iff.2 ⟨_, found, partOfJson?_partToJson x⟩, rfl⟩

mutual

theorem ofJson_toJson : ∀ value : Value, value.Keyed → ofJson value.toJson = .ok value.canonical
  | .null, _ | .bool _, _ | .string _, _ => rfl
  | .number x, _ => by
    unfold toJson
    cases finite : x.isFinite with
    | true =>
      rw [canonical, Double.canonical_of_isFinite finite]
      rfl
    | false =>
      obtain ⟨object, made, tagged, found⟩ := exists_tagged "Number"
        [("value", .string (writeNumber x))] (by simp [names, kindField])
      rw [if_neg Bool.false_ne_true, made]
      simp only [ofJson, tagged]
      have read := partOfJson?_writeNumber finite
      exact map_eq_ok.2 ⟨_, numberField_eq_ok_iff.2 ⟨_, found "value" rfl, read⟩, rfl⟩
  | .decimal d, _ => by
    obtain ⟨object, made, tagged, found⟩ := exists_tagged "BigNumber"
      [("value", .string d.write)] (by simp [names, kindField])
    rw [toJson, made]
    simp only [ofJson, tagged]
    exact bind_eq_ok.2
      ⟨_, textField_eq_ok_iff.2 (found "value" rfl),
        map_eq_ok.2 ⟨_, decimalOfText_eq_ok_iff.2 (Decimal.ofLiteral?_write d), rfl⟩⟩
  | .complex re im, _ => by
    obtain ⟨object, made, tagged, found⟩ := exists_tagged "Complex"
      [("re", partToJson re), ("im", partToJson im)] (by simp [names, kindField])
    rw [toJson, made]
    simp only [ofJson, tagged]
    exact bind_eq_ok.2 ⟨_, numberField_eq_ok_iff.2 ⟨_, found "re" rfl, partOfJson?_partToJson re⟩,
      bind_eq_ok.2 ⟨_, numberField_eq_ok_iff.2 ⟨_, found "im" rfl, partOfJson?_partToJson im⟩, rfl⟩⟩
  | .unit magnitude name, _ => by
    obtain ⟨object, made, tagged, found⟩ := exists_tagged "Unit"
      [("value", (magnitude.map partToJson).getD .null), ("unit", .string name)]
      (by simp [names, kindField])
    rw [toJson, made]
    simp only [ofJson, tagged]
    exact bind_eq_ok.2 ⟨_, magnitudeField_eq (found "value" rfl),
      bind_eq_ok.2 ⟨_, textField_eq_ok_iff.2 (found "unit" rfl), rfl⟩⟩
  | .matrix items, hk => by
    obtain ⟨object, made, tagged, found⟩ := exists_tagged "DenseMatrix"
      [("data", .array (itemsToJson items))] (by simp [names, kindField])
    rw [toJson, made]
    simp only [ofJson, tagged]
    have read := itemsOfJson_itemsToJson items hk
    exact map_eq_ok.2 ⟨_, listField_eq_ok_iff.2 ⟨_, found "data" rfl, read⟩, rfl⟩
  | .object entries, hk => by
    have same := Bindings.ascending_perm hk.1
    have read := ofJson_entries entries hk.2
    obtain ⟨object, made, tagged, found⟩ := exists_tagged "Object"
      [("entries", Json.ofFields (entriesToJson entries))] (by simp [names, kindField])
    rw [toJson, made]
    simp only [ofJson, tagged]
    -- The entries are written by ascending key, which is the order of the canonical form.
    have each := entriesOfJson_map fun entry mem => read entry (same.mem_iff.1 mem)
    rw [← Bindings.ascending_map, ← entriesToJson_eq_map] at each
    rw [canonical, sorted_entriesCanonical hk.1]
    exact map_eq_ok.2 ⟨_, entriesField_eq_ok_iff.2 ⟨_, found "entries" rfl, each⟩, rfl⟩
  | .resultSet items, hk => by
    obtain ⟨object, made, tagged, found⟩ := exists_tagged "ResultSet"
      [("entries", .array (itemsToJson items))] (by simp [names, kindField])
    rw [toJson, made]
    simp only [ofJson, tagged]
    have read := itemsOfJson_itemsToJson items hk
    exact map_eq_ok.2 ⟨_, listField_eq_ok_iff.2 ⟨_, found "entries" rfl, read⟩, rfl⟩

theorem itemsOfJson_itemsToJson : ∀ items : List Value, AllKeyed items →
    itemsOfJson (itemsToJson items) = .ok (allCanonical items)
  | [], _ => rfl
  | item :: rest, hk => by
    have first := ofJson_toJson item hk.1
    have later := itemsOfJson_itemsToJson rest hk.2
    simp only [itemsToJson, itemsOfJson, first, later]
    rfl

theorem ofJson_entries : ∀ entries : List (String × Value), EntriesKeyed entries →
    ∀ entry ∈ entries, ofJson entry.2.toJson = .ok entry.2.canonical
  | [], _ => by simp
  | (key, value) :: rest, hk =>
    List.forall_mem_cons.2 ⟨ofJson_toJson value hk.1, ofJson_entries rest hk.2⟩

end

end Value

end FormulaTree
