import FormulaTree.Proofs.Bindings
import FormulaTree.Proofs.Exec
import FormulaTree.Record

set_option autoImplicit false

namespace FormulaTree.Record

theorem exists_tagged (kind : String) (fields : List (String × Json))
    (distinct : (kindField :: Bindings.names fields).Nodup) :
    ∃ object, tagged kind fields = .object object ∧
      Bindings.get? kindField object = some (.string kind) ∧
      ∀ (name : String) {json : Json}, Bindings.get? name fields = some json →
        Bindings.get? name object = some json := by
  refine ⟨_, rfl, Bindings.get?_ascending distinct (if_pos rfl), ?_⟩
  intro name json h
  refine Bindings.get?_ascending distinct ?_
  have other : kindField ≠ name := by
    rintro rfl
    exact (List.nodup_cons.1 distinct).1 (List.mem_map_of_mem (Bindings.mem_of_get? h))
  rw [Bindings.get?, if_neg other, h]

variable {schema : Schema} {object : List (String × Json)}

/-- The object has the field, and its value passes the check, or the field may be left out. -/
def Field.Filled (field : Field) (object : List (String × Json)) : Prop :=
  match Bindings.get? field.name object with
  | some json => field.check json = .ok ()
  | none => field.optional = true

theorem filled_any_iff {name : String} :
    (Field.any name).Filled object ↔ ∃ json, Bindings.get? name object = some json := by
  unfold Field.Filled Field.any
  cases Bindings.get? name object <;> simp

theorem filled_text_iff {name : String} :
    (Field.text name).Filled object ↔ ∃ text, Bindings.get? name object = some (.string text) := by
  unfold Field.Filled Field.text
  cases Bindings.get? name object with
  | none => simp
  | some json => cases json <;> simp [checkText]

theorem filled_flag_iff {name : String} :
    (Field.flag name).Filled object ↔
      ∀ json, Bindings.get? name object = some json → ∃ b, json = .bool b := by
  unfold Field.Filled Field.flag
  cases Bindings.get? name object with
  | none => simp
  | some json => cases json <;> simp [checkFlag]

theorem checkPresent_eq_ok_iff :
    schema.checkPresent object = .ok () ↔
      ∀ pair ∈ object, schema.checkField pair.1 pair.2 = .ok () := by
  induction object with
  | nil => simp [Schema.checkPresent]
  | cons pair rest ih =>
    rw [Schema.checkPresent, bind_eq_ok, List.forall_mem_cons, ← ih]
    exact ⟨fun ⟨(), first, later⟩ => ⟨first, later⟩, fun ⟨first, later⟩ => ⟨(), first, later⟩⟩

theorem checkMissing_eq_ok_iff {fields : List Field} :
    checkMissing object fields = .ok () ↔
      ∀ field ∈ fields, field.optional = true ∨ Bindings.contains field.name object = true := by
  induction fields with
  | nil => simp [checkMissing]
  | cons field rest ih =>
    rw [checkMissing, List.forall_mem_cons, ← ih, ← Bool.or_eq_true]
    split <;> simp_all

theorem checkField_eq_ok {name : String} {value : Json}
    (present : Bindings.get? name object = some value)
    (filled : ∀ field ∈ schema.fields, field.Filled object) :
    schema.checkField name value = .ok () := by
  unfold Schema.checkField
  split
  · rename_i field found
    have named : field.name = name := by simpa using List.find?_some found
    have passed := filled field (List.mem_of_find?_eq_some found)
    rwa [Field.Filled, named, present] at passed
  · rfl

theorem checkObject_eq_ok (distinct : (Bindings.names object).Nodup)
    (filled : ∀ field ∈ schema.fields, field.Filled object) :
    schema.checkObject object = .ok () := by
  refine bind_eq_ok.2 ⟨(), checkPresent_eq_ok_iff.2 fun pair mem => ?_,
    checkMissing_eq_ok_iff.2 fun field mem => ?_⟩
  · exact checkField_eq_ok (Bindings.get?_of_mem distinct mem) filled
  · have passed := filled field mem
    unfold Field.Filled at passed
    unfold Bindings.contains
    split at passed
    · rename_i found
      simp [found]
    · exact .inl passed

/-- Each declared field is checked, if no name is declared twice. -/
theorem filled_of_checkObject (declared : (schema.fields.map Field.name).Nodup)
    (h : schema.checkObject object = .ok ()) : ∀ field ∈ schema.fields, field.Filled object := by
  intro field mem
  obtain ⟨⟨⟩, present, missing⟩ := bind_eq_ok.1 h
  unfold Field.Filled
  cases found : Bindings.get? field.name object with
  | none =>
    have left_out := checkMissing_eq_ok_iff.1 missing field mem
    simpa [Bindings.contains, found] using left_out
  | some json =>
    have passed := checkPresent_eq_ok_iff.1 present _ (Bindings.mem_of_get? found)
    have first : schema.fields.find? (·.name = field.name) = some field := by
      obtain ⟨other, first⟩ : ∃ other, schema.fields.find? (·.name = field.name) = some other := by
        rw [← Option.isSome_iff_exists, List.find?_isSome]
        exact ⟨field, mem, by simp⟩
      have named : other.name = field.name := by simpa using List.find?_some first
      rwa [List.inj_on_of_nodup_map declared (List.mem_of_find?_eq_some first) mem named] at first
    rwa [Schema.checkField, first] at passed

theorem filled_of_fieldsOf {checked : List (String × Json)}
    (declared : (schema.fields.map Field.name).Nodup)
    (h : schema.fieldsOf (.object object) = .ok checked) :
    checked = object ∧ ∀ field ∈ schema.fields, field.Filled object := by
  obtain ⟨⟨⟩, passed, ⟨⟩⟩ := bind_eq_ok.1 h
  exact ⟨rfl, filled_of_checkObject declared passed⟩

theorem fieldsOf_eq_ok (distinct : (Bindings.names object).Nodup)
    (filled : ∀ field ∈ schema.fields, field.Filled object) :
    schema.fieldsOf (.object object) = .ok object :=
  bind_eq_ok.2 ⟨(), checkObject_eq_ok distinct filled, rfl⟩

/-- An object of fields among which every declared one is filled passes the check. -/
theorem exists_checked (schema : Schema) (fields : List (String × Json))
    (distinct : (Bindings.names fields).Nodup)
    (filled : ∀ field ∈ schema.fields, ∃ json, Bindings.get? field.name fields = some json ∧
      field.check json = .ok ()) :
    ∃ object, Json.ofFields fields = .object object ∧
      schema.fieldsOf (.object object) = .ok object ∧
      ∀ (name : String) {json : Json}, Bindings.get? name fields = some json →
        Bindings.get? name object = some json := by
  refine ⟨_, rfl, ?_, fun name json => Bindings.get?_ascending distinct⟩
  refine bind_eq_ok.2 ⟨(), checkObject_eq_ok (Bindings.ascending_ascending _).nodup ?_, rfl⟩
  intro field mem
  obtain ⟨json, found, passed⟩ := filled field mem
  rwa [Field.Filled, Bindings.get?_ascending distinct found]

end FormulaTree.Record
