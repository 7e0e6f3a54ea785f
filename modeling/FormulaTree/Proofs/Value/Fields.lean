import FormulaTree.Proofs.Bindings
import FormulaTree.Proofs.Exec
import FormulaTree.Value.Encoding

set_option autoImplicit false

namespace FormulaTree.Value

variable {kind name label : String} {fields : List (String × Json)}

theorem field_eq_ok_iff {json : Json} :
    field kind name fields = .ok json ↔ Bindings.get? name fields = some json := by
  unfold field
  cases Bindings.get? name fields <;> simp

theorem numberField_eq_ok_iff {x : Float} :
    numberField kind name fields = .ok x ↔
      ∃ json, Bindings.get? name fields = some json ∧ partOfJson? json = some x := by
  refine bind_eq_ok.trans (exists_congr fun json => and_congr field_eq_ok_iff ?_)
  cases partOfJson? json <;> simp

theorem textField_eq_ok_iff {text : String} :
    textField kind name label fields = .ok text ↔
      Bindings.get? name fields = some (.string text) := by
  refine bind_eq_ok.trans ⟨?_, fun found => ⟨_, field_eq_ok_iff.2 found, rfl⟩⟩
  rintro ⟨json, found, read⟩
  cases json with
  | string text =>
    cases read
    exact field_eq_ok_iff.1 found
  | _ => cases read

theorem decimalOfText_eq_ok_iff {text : String} {d : Decimal} :
    decimalOfText text = .ok d ↔ Decimal.ofLiteral? text = some d := by
  unfold decimalOfText
  cases Decimal.ofLiteral? text <;> simp

theorem listField_eq_ok_iff {values : List Value} :
    listField kind name fields = .ok values ↔
      ∃ items, Bindings.get? name fields = some (.array items) ∧
        itemsOfJson items = .ok values := by
  have searched := Bindings.search_eq_iff (listField kind name) name (.ok values)
    (fun json => ∃ items, json = .array items ∧ itemsOfJson items = .ok values)
    (by simp [listField])
    (fun json rest => by cases json <;> simp [listField])
    (fun json rest other => by conv_lhs => unfold listField; exact if_neg other) fields
  simpa using searched

theorem entriesField_eq_ok_iff {values : List (String × Value)} :
    entriesField fields = .ok values ↔
      ∃ members, Bindings.get? "entries" fields = some (.object members) ∧
        entriesOfJson members = .ok values := by
  have searched := Bindings.search_eq_iff entriesField "entries" (.ok values)
    (fun json => ∃ members, json = .object members ∧ entriesOfJson members = .ok values)
    (by simp [entriesField])
    (fun json rest => by cases json <;> simp [entriesField])
    (fun json rest other => by conv_lhs => unfold entriesField; exact if_neg other) fields
  simpa using searched

theorem itemsOfJson_eq_mapM (items : List Json) : itemsOfJson items = items.mapM ofJson := by
  induction items with
  | nil => rfl
  | cons item rest ih =>
    rw [itemsOfJson, List.mapM_cons, ih]
    rfl

theorem entriesOfJson_eq_mapM (members : List (String × Json)) :
    entriesOfJson members = members.mapM fun member =>
      (fun value => (member.1, value)) <$> ofJson member.2 := by
  induction members with
  | nil => rfl
  | cons member rest ih =>
    obtain ⟨key, json⟩ := member
    rw [entriesOfJson, List.mapM_cons, ih, map_eq_pure_bind, bind_assoc]
    rfl

end FormulaTree.Value
